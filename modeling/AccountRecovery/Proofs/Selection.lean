import AccountRecovery.Channel.Selection
/-!
# Reading stored selections

A stored selection is read one channel after the other (`parse_serialize`).  Each channel is read as
itself, unless its value has a comma with a known type and a colon behind it (`Breaks`): then it
falls apart into several entries, and so the selection does not come back
(`map_entries_parse_serialize_iff`).
-/

namespace AccountRecovery

/-! ## Fields -/

namespace Text

variable {sep : Char}

theorem fields_append_sep (xs ys : List Char) :
    fields sep (xs ++ sep :: ys) = fields sep xs ++ fields sep ys := by
  induction xs with
  | nil => simp [fields]
  | cons c xs ih =>
      rw [List.cons_append, fields, fields]
      by_cases hc : c = sep
      · rw [if_pos hc, if_pos hc, ih, List.cons_append]
      · rw [if_neg hc, if_neg hc, ih]
        obtain ⟨p, ps, hp⟩ := List.exists_cons_of_ne_nil (fields_ne_nil sep xs)
        rw [hp]
        rfl

theorem fields_append_left {xs : List Char} (h : sep ∉ xs) {ys p : List Char}
    {ps : List (List Char)} (hys : fields sep ys = p :: ps) :
    fields sep (xs ++ ys) = (xs ++ p) :: ps := by
  induction xs with
  | nil => exact hys
  | cons c xs ih =>
      rw [List.mem_cons, not_or] at h
      rw [List.cons_append, fields, if_neg (Ne.symm h.1), ih h.2]
      rfl

theorem prefix_head_fields {w xs p : List Char} {ps : List (List Char)} (hw : sep ∉ w)
    (hxs : fields sep xs = p :: ps) : w <+: xs ↔ w <+: p := by
  induction w generalizing xs p ps with
  | nil => simp
  | cons a w ih =>
      rw [List.mem_cons, not_or] at hw
      cases xs with
      | nil =>
          cases hxs
          simp
      | cons c xs =>
          rw [fields] at hxs
          by_cases hc : c = sep
          · rw [if_pos hc] at hxs
            cases hxs
            simp only [List.cons_prefix_cons, List.prefix_nil, reduceCtorEq, iff_false, not_and]
            rintro rfl
            exact (hw.1 hc.symm).elim
          · obtain ⟨q, qs, hq⟩ := List.exists_cons_of_ne_nil (fields_ne_nil sep xs)
            rw [if_neg hc, hq, consHead] at hxs
            cases hxs
            rw [List.cons_prefix_cons, List.cons_prefix_cons, ih hw.2 hq]

theorem infix_iff_prefix_field {w xs : List Char} (hw : sep ∉ w) :
    sep :: w <:+: xs ↔ ∃ p ∈ (fields sep xs).tail, w <+: p := by
  induction xs with
  | nil => simp [fields]
  | cons c xs ih =>
      obtain ⟨p, ps, hp⟩ := List.exists_cons_of_ne_nil (fields_ne_nil sep xs)
      rw [List.infix_cons_iff, List.cons_prefix_cons, ih, fields, hp]
      by_cases hc : c = sep
      · simp [hc, prefix_head_fields hw hp]
      · simp [hc, Ne.symm hc, consHead]

end Text

/-! ## Names of types -/

namespace ChannelType

theorem ofName?_eq_some_iff {name : String} {type : ChannelType} :
    ofName? name = some type ↔ name = type.name := by
  constructor
  · intro h
    have htype := List.find?_some h
    rw [decide_eq_true_eq] at htype
    exact htype.symm
  · rintro rfl
    cases type <;> rfl

theorem typeSeparator_notMem_name (type : ChannelType) :
    Selection.typeSeparator ∉ type.name.toList := by
  cases type <;> decide

end ChannelType

namespace Selection

/-! ## The start of an entry -/

def mark (type : ChannelType) : List Char :=
  type.name.toList ++ [typeSeparator]

theorem listSeparator_notMem_mark (type : ChannelType) : listSeparator ∉ mark type := by
  cases type <;> decide

theorem entryOf?_eq_some_iff {piece value : List Char} {type : ChannelType} :
    entryOf? piece = some (type, value) ↔ piece = mark type ++ value := by
  unfold entryOf? mark
  constructor
  · intro h
    cases hcut : Text.cut? typeSeparator piece with
    | none => simp [hcut] at h
    | some parts =>
        obtain ⟨name, rest⟩ := parts
        simp only [hcut, Option.map_eq_some_iff, Prod.mk.injEq] at h
        obtain ⟨t, ht, rfl, rfl⟩ := h
        rw [ChannelType.ofName?_eq_some_iff] at ht
        rw [(Text.eq_of_cut?_eq_some hcut).1, ← ht]
        simp
  · rintro rfl
    rw [List.append_assoc, List.singleton_append,
      Text.cut?_append type.typeSeparator_notMem_name]
    simp [ChannelType.ofName?_eq_some_iff]

theorem isSome_entryOf?_iff {piece : List Char} :
    (entryOf? piece).isSome = true ↔ ∃ type, mark type <+: piece := by
  rw [Option.isSome_iff_exists]
  constructor
  · rintro ⟨⟨type, value⟩, h⟩
    exact ⟨type, value, (entryOf?_eq_some_iff.1 h).symm⟩
  · rintro ⟨type, value, h⟩
    exact ⟨(type, value), entryOf?_eq_some_iff.2 h.symm⟩

/-- Whether there is a comma with a known type and a colon right behind it. -/
def Breaks (value : List Char) : Prop :=
  ∃ type, listSeparator :: mark type <:+: value

theorem breaks_iff {value : List Char} :
    Breaks value ↔ ∃ piece ∈ (Text.fields listSeparator value).tail,
      (entryOf? piece).isSome = true := by
  unfold Breaks
  simp only [isSome_entryOf?_iff, Text.infix_iff_prefix_field (listSeparator_notMem_mark _)]
  constructor
  · rintro ⟨type, piece, hpiece, hmark⟩
    exact ⟨piece, hpiece, type, hmark⟩
  · rintro ⟨piece, hpiece, type, hmark⟩
    exact ⟨type, piece, hpiece, hmark⟩

/-! ## One channel -/

theorem length_entriesAfter (type : ChannelType) (value : List Char) (pieces : List (List Char)) :
    (entriesAfter type value pieces).length =
      pieces.countP (fun piece => (entryOf? piece).isSome) + 1 := by
  induction pieces generalizing type value with
  | nil => rfl
  | cons piece pieces ih =>
      rw [entriesAfter, List.countP_cons]
      cases hentry : entryOf? piece with
      | none => simp [ih]
      | some entry => simp [ih]

/-- Pieces that start no entry belong to the value. -/
theorem entriesAfter_of_none {type : ChannelType} {value : List Char} {pieces : List (List Char)}
    (h : ∀ piece ∈ pieces, entryOf? piece = none) :
    entriesAfter type value pieces =
      [⟨type, String.ofList ([listSeparator].intercalate (value :: pieces))⟩] := by
  induction pieces generalizing value with
  | nil => simp [entriesAfter]
  | cons piece pieces ih =>
      rw [entriesAfter, h piece List.mem_cons_self]
      rw [ih fun p hp => h p (List.mem_cons_of_mem _ hp)]
      cases pieces <;> simp

/-- What one channel is read as once it is stored. -/
def readBack (type : ChannelType) (value : List Char) : List SelectionEntry :=
  match Text.fields listSeparator value with
  | [] => []
  | piece :: pieces => entriesAfter type piece pieces

theorem length_readBack (type : ChannelType) (value : List Char) :
    (readBack type value).length =
      (Text.fields listSeparator value).tail.countP (fun piece => (entryOf? piece).isSome) + 1 := by
  obtain ⟨p, ps, hp⟩ := List.exists_cons_of_ne_nil (Text.fields_ne_nil listSeparator value)
  rw [readBack, hp]
  exact length_entriesAfter type p ps

theorem length_readBack_eq_one_iff {type : ChannelType} {value : List Char} :
    (readBack type value).length = 1 ↔ ¬Breaks value := by
  rw [length_readBack, breaks_iff, Nat.add_eq_right, List.countP_eq_zero]
  simp

theorem readBack_of_not_breaks {type : ChannelType} {value : List Char} (h : ¬Breaks value) :
    readBack type value = [⟨type, String.ofList value⟩] := by
  rw [breaks_iff] at h
  obtain ⟨p, ps, hp⟩ := List.exists_cons_of_ne_nil (Text.fields_ne_nil listSeparator value)
  have hnone : ∀ piece ∈ ps, entryOf? piece = none := by
    intro piece hpiece
    rw [← Option.not_isSome_iff_eq_none]
    exact fun hsome => h ⟨piece, by rwa [hp], hsome⟩
  have hvalue := Text.intercalate_fields listSeparator value
  rw [hp] at hvalue
  rw [readBack, hp]
  dsimp only
  rw [entriesAfter_of_none hnone, hvalue]

/-! ## Selections -/

theorem entriesAfter_append (type : ChannelType) (value : List Char)
    (pieces rest : List (List Char))
    (hrest : ∀ piece, rest.head? = some piece → (entryOf? piece).isSome = true) :
    entriesAfter type value (pieces ++ rest) =
      entriesAfter type value pieces ++ (readPieces rest).entries := by
  induction pieces generalizing type value with
  | nil =>
      cases rest with
      | nil => rfl
      | cons piece rest =>
          obtain ⟨⟨t, v⟩, hentry⟩ := Option.isSome_iff_exists.1 (hrest piece rfl)
          simp [entriesAfter, readPieces, hentry]
  | cons piece pieces ih =>
      rw [List.cons_append, entriesAfter, entriesAfter]
      cases entryOf? piece with
      | none => exact ih type _
      | some entry =>
          dsimp only
          rw [ih, List.cons_append]

def piecesOfChannel (c : Channel) : List (List Char) :=
  Text.fields listSeparator (mark c.type ++ c.value.toList)

theorem piecesOf_serialize (channels : List Channel) :
    piecesOf (serialize channels) = channels.flatMap piecesOfChannel := by
  have hfields : Text.fields listSeparator (serialize channels).toList =
      channels.flatMap piecesOfChannel ++ [[]] := by
    rw [serialize, String.toList_ofList]
    induction channels with
    | nil => rfl
    | cons c channels ih =>
        have hchars : entryChars c.type c.value.toList ++
            channels.flatMap (fun c => entryChars c.type c.value.toList) =
              (mark c.type ++ c.value.toList) ++
                listSeparator :: channels.flatMap fun c => entryChars c.type c.value.toList := by
          simp [entryChars, mark]
        rw [List.flatMap_cons, List.flatMap_cons, hchars, Text.fields_append_sep, ih,
          List.append_assoc]
        rfl
  unfold piecesOf
  rw [hfields]
  simp

theorem piecesOfChannel_eq {c : Channel} {p : List Char} {ps : List (List Char)}
    (h : Text.fields listSeparator c.value.toList = p :: ps) :
    piecesOfChannel c = (mark c.type ++ p) :: ps :=
  Text.fields_append_left (listSeparator_notMem_mark c.type) h

theorem isSome_entryOf?_head {channels : List Channel} {piece : List Char}
    (h : (channels.flatMap piecesOfChannel).head? = some piece) :
    (entryOf? piece).isSome = true := by
  cases channels with
  | nil => cases h
  | cons c channels =>
      obtain ⟨p, ps, hp⟩ :=
        List.exists_cons_of_ne_nil (Text.fields_ne_nil listSeparator c.value.toList)
      rw [List.flatMap_cons, piecesOfChannel_eq hp] at h
      cases h
      exact isSome_entryOf?_iff.2 ⟨c.type, List.prefix_append _ _⟩

theorem readPieces_channels (channels : List Channel) :
    readPieces (channels.flatMap piecesOfChannel) =
      ⟨channels.flatMap fun c => readBack c.type c.value.toList, 0⟩ := by
  induction channels with
  | nil => rfl
  | cons c channels ih =>
      obtain ⟨p, ps, hp⟩ :=
        List.exists_cons_of_ne_nil (Text.fields_ne_nil listSeparator c.value.toList)
      have hentry : entryOf? (mark c.type ++ p) = some (c.type, p) := entryOf?_eq_some_iff.2 rfl
      rw [List.flatMap_cons, List.flatMap_cons, piecesOfChannel_eq hp, List.cons_append, readPieces,
        hentry]
      dsimp only
      rw [entriesAfter_append _ _ _ _ fun _ => isSome_entryOf?_head, ih, readBack, hp]

/-- A stored selection is read one channel after the other, and no piece of it is skipped. -/
theorem parse_serialize (channels : List Channel) :
    parse (serialize channels) =
      ⟨channels.flatMap fun c => readBack c.type c.value.toList, 0⟩ := by
  rw [parse, piecesOf_serialize, readPieces_channels]

theorem length_le_length_flatMap_readBack (channels : List Channel) :
    channels.length ≤ (channels.flatMap fun c => readBack c.type c.value.toList).length := by
  induction channels with
  | nil => exact Nat.le_refl 0
  | cons c channels ih =>
      rw [List.flatMap_cons, List.length_append, List.length_cons, length_readBack]
      omega

/-- A stored selection comes back channel by channel, however the entries are shown, just if no
value breaks: otherwise there are more entries than channels. -/
theorem map_entries_parse_serialize_iff {α : Type} (shown : SelectionEntry → α)
    (channels : List Channel) :
    (parse (serialize channels)).entries.map shown =
        channels.map (fun c => shown ⟨c.type, c.value⟩) ↔
      ∀ c ∈ channels, ¬Breaks c.value.toList := by
  rw [parse_serialize]
  dsimp only
  constructor
  · intro h
    have hlength := congrArg List.length h
    rw [List.length_map, List.length_map] at hlength
    clear h
    induction channels with
    | nil => simp
    | cons c channels ih =>
        have hle := length_le_length_flatMap_readBack channels
        have hc := length_readBack c.type c.value.toList
        rw [List.flatMap_cons, List.length_append, List.length_cons] at hlength
        have hone : (readBack c.type c.value.toList).length = 1 := by omega
        have hrest : (channels.flatMap fun c => readBack c.type c.value.toList).length =
            channels.length := by omega
        rw [List.forall_mem_cons]
        exact ⟨length_readBack_eq_one_iff.1 hone, ih hrest⟩
  · intro h
    induction channels with
    | nil => rfl
    | cons c channels ih =>
        rw [List.forall_mem_cons] at h
        rw [List.flatMap_cons, List.map_append, ih h.2, readBack_of_not_breaks h.1]
        simp

/-! ## The round trip -/

theorem breaks_toList_iff {value : String} :
    Breaks value.toList ↔ ∃ (type : ChannelType) (before after : String),
      value = before ++ "," ++ type.name ++ ":" ++ after := by
  constructor
  · rintro ⟨type, before, after, hvalue⟩
    refine ⟨type, String.ofList before, String.ofList after, String.toList_inj.1 ?_⟩
    rw [← hvalue]
    simp [mark, typeSeparator, listSeparator]
  · rintro ⟨type, before, after, rfl⟩
    refine ⟨type, before.toList, after.toList, ?_⟩
    simp [mark, typeSeparator, listSeparator]

/-- A selection is read back as it was stored, with no piece skipped, if and only if no value has a
comma with a known type and a colon right behind it. -/
theorem parse_serialize_eq_iff (channels : List Channel) :
    parse (serialize channels) = ⟨channels.map fun c => ⟨c.type, c.value⟩, 0⟩ ↔
      ∀ c ∈ channels, ∀ (type : ChannelType) (before after : String),
        c.value ≠ before ++ "," ++ type.name ++ ":" ++ after := by
  have hskipped : parse (serialize channels) = ⟨channels.map fun c => ⟨c.type, c.value⟩, 0⟩ ↔
      (parse (serialize channels)).entries = channels.map fun c => ⟨c.type, c.value⟩ := by
    rw [parse_serialize]
    simp
  have hentries := map_entries_parse_serialize_iff id channels
  simp only [List.map_id, id_eq, breaks_toList_iff, not_exists] at hentries
  exact hskipped.trans hentries

end Selection

end AccountRecovery
