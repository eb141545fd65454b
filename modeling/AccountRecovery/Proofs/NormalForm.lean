import AccountRecovery.Proofs.Selection
/-!
# Normal forms of stored selections

Any text can be read as a stored selection.  Pieces in front of the first entry are skipped, and
nothing behind them is lost: what is read is stored as the rest of the text, with a comma at its end
(`flatMap_entryChars_entriesAfter`).  So reading brings a text into a form that is read as the same
entries, with nothing to skip.

Main statement: `parse_normalizes`.
-/

namespace AccountRecovery

/-! ## Pieces of a text -/

namespace Text

variable {sep : Char} {cs p : List Char} {ps qs : List (List Char)}

theorem sep_notMem_of_mem_fields (h : p ∈ fields sep cs) : sep ∉ p := by
  induction cs generalizing p with
  | nil =>
      rw [fields, List.mem_singleton] at h
      rw [h]
      exact List.not_mem_nil
  | cons c cs ih =>
      obtain ⟨q, qs, hq⟩ := List.exists_cons_of_ne_nil (fields_ne_nil sep cs)
      rw [fields, hq] at h
      rw [hq] at ih
      by_cases hc : c = sep
      · rw [if_pos hc] at h
        rcases List.mem_cons.1 h with rfl | h
        · exact List.not_mem_nil
        · exact ih h
      · rw [if_neg hc, consHead] at h
        rcases List.mem_cons.1 h with rfl | h
        · have hhead := ih List.mem_cons_self
          rw [List.mem_cons, not_or]
          exact ⟨Ne.symm hc, hhead⟩
        · exact ih (List.mem_cons_of_mem q h)

theorem fields_intercalate_concat (hne : ps ≠ []) (h : ∀ p ∈ ps, sep ∉ p) :
    fields sep ([sep].intercalate ps ++ [sep]) = ps ++ [[]] := by
  induction ps with
  | nil => exact (hne rfl).elim
  | cons p ps ih =>
      rw [List.forall_mem_cons] at h
      have hp : fields sep p = [p] := by
        have hfields := fields_append_left h.1 (fields.eq_1 sep)
        rwa [List.append_nil] at hfields
      cases ps with
      | nil =>
          have hsplit : fields sep (p ++ sep :: []) = fields sep p ++ fields sep [] :=
            fields_append_sep p []
          rw [hp, fields] at hsplit
          simpa using hsplit
      | cons q ps =>
          let rest := [sep].intercalate (q :: ps) ++ [sep]
          have hsplit : fields sep (p ++ sep :: rest) = fields sep p ++ fields sep rest :=
            fields_append_sep p rest
          rw [hp, ih (List.cons_ne_nil q ps) h.2] at hsplit
          simpa [rest] using hsplit

theorem intercalate_append_of_ne_nil (hne : qs ≠ []) :
    [sep].intercalate (ps ++ qs) = ps.flatMap (· ++ [sep]) ++ [sep].intercalate qs := by
  induction ps with
  | nil => rfl
  | cons p ps ih =>
      obtain ⟨q, rest, hq⟩ := List.exists_cons_of_ne_nil (List.append_ne_nil_of_right_ne_nil ps hne)
      rw [hq] at ih
      rw [List.cons_append, hq, List.flatMap_cons, List.append_assoc, ← ih]
      simp

theorem intercalate_concat_nil (hne : ps ≠ []) :
    [sep].intercalate (ps ++ [[]]) = [sep].intercalate ps ++ [sep] := by
  induction ps with
  | nil => exact (hne rfl).elim
  | cons p ps ih =>
      cases ps with
      | nil => simp
      | cons q ps =>
          have hrest := ih (List.cons_ne_nil q ps)
          simp only [List.cons_append] at hrest ⊢
          simp [hrest]

theorem getLast?_eq_sep_iff (hne : cs ≠ []) :
    cs.getLast? = some sep ↔ (fields sep cs).getLast? = some [] := by
  obtain ⟨ps, p, hps⟩ : ∃ ps p, fields sep cs = ps ++ [p] :=
    ⟨_, _, (List.dropLast_concat_getLast (fields_ne_nil sep cs)).symm⟩
  have hcs : cs = ps.flatMap (· ++ [sep]) ++ p := by
    have hjoined := intercalate_fields sep cs
    rw [hps, intercalate_append_of_ne_nil (List.cons_ne_nil p [])] at hjoined
    simpa using hjoined.symm
  have hmem : p ∈ fields sep cs := by simp [hps]
  have hp : sep ∉ p := sep_notMem_of_mem_fields hmem
  rw [hps, List.getLast?_concat, Option.some.injEq]
  rcases List.eq_nil_or_concat p with rfl | ⟨p, c, rfl⟩
  · refine iff_of_true ?_ rfl
    rcases List.eq_nil_or_concat ps with rfl | ⟨ps, q, rfl⟩
    · exact (hne hcs).elim
    · rw [hcs]
      simp
  · have hc : c ≠ sep := by
      rintro rfl
      simp at hp
    refine iff_of_false ?_ (by simp)
    rw [hcs]
    simp [hc]

end Text

namespace Selection

/-! ## Pieces that start an entry -/

def StartsEntry (piece : List Char) : Prop :=
  ∃ type, mark type <+: piece

variable {piece : List Char} {pieces early : List (List Char)} {s : String}

theorem startsEntry_iff : StartsEntry piece ↔ (entryOf? piece).isSome = true :=
  isSome_entryOf?_iff.symm

theorem StartsEntry.ne_nil (h : StartsEntry piece) : piece ≠ [] := by
  rintro rfl
  obtain ⟨type, hprefix⟩ := h
  simp [mark] at hprefix

instance : Decidable (StartsEntry piece) :=
  decidable_of_iff _ startsEntry_iff.symm

theorem entryOf?_eq_none (h : ¬StartsEntry piece) : entryOf? piece = none := by
  rwa [startsEntry_iff, Bool.not_eq_true, Option.isSome_eq_false_iff,
    Option.isNone_iff_eq_none] at h

/-- Pieces in front of the first entry are skipped, and those that are not empty are counted. -/
theorem readPieces_append (h : ∀ piece ∈ early, ¬StartsEntry piece) :
    readPieces (early ++ pieces) =
      ⟨(readPieces pieces).entries,
        early.countP (fun piece => piece ≠ []) + (readPieces pieces).skipped⟩ := by
  induction early with
  | nil => simp
  | cons piece early ih =>
      rw [List.forall_mem_cons] at h
      rw [List.cons_append, readPieces, entryOf?_eq_none h.1, ih h.2]
      cases piece with
      | nil => simp
      | cons c piece =>
          simp
          omega

theorem flatMap_entryChars_entriesAfter (type : ChannelType) (value : List Char) :
    ((entriesAfter type value pieces).flatMap fun e => entryChars e.type e.value.toList) =
      [listSeparator].intercalate ((mark type ++ value) :: pieces) ++ [listSeparator] := by
  induction pieces generalizing type value with
  | nil => simp [entriesAfter, entryChars, mark]
  | cons piece pieces ih =>
      rw [entriesAfter]
      cases hentry : entryOf? piece with
      | none =>
          dsimp only
          rw [ih]
          cases pieces <;> simp
      | some entry =>
          obtain ⟨t, v⟩ := entry
          dsimp only
          rw [List.flatMap_cons, ih, ← entryOf?_eq_some_iff.1 hentry]
          simp [entryChars, mark]

/-! ## The piece behind the last comma -/

def trimmed (pieces : List (List Char)) : List (List Char) :=
  if pieces.getLast? = some [] then pieces.dropLast else pieces

theorem piecesOf_eq (s : String) : piecesOf s = trimmed (Text.fields listSeparator s.toList) :=
  rfl

theorem trimmed_concat_nil : trimmed (pieces ++ [[]]) = pieces := by
  simp [trimmed]

theorem trimmed_cases (pieces : List (List Char)) :
    pieces.getLast? = some [] ∧ pieces = trimmed pieces ++ [[]] ∨
      pieces.getLast? ≠ some [] ∧ pieces = trimmed pieces := by
  unfold trimmed
  split
  · next hlast =>
      obtain ⟨front, rfl⟩ := List.getLast?_eq_some_iff.1 hlast
      exact .inl ⟨hlast, by simp⟩
  · next hlast => exact .inr ⟨hlast, rfl⟩

theorem trimmed_append (hne : pieces ≠ []) :
    trimmed (early ++ pieces) = early ++ trimmed pieces := by
  unfold trimmed
  rw [List.getLast?_append, List.dropLast_append_of_ne_nil hne,
    Option.or_of_isSome (List.getLast?_isSome.2 hne)]
  split <;> rfl

theorem mem_of_mem_trimmed (h : piece ∈ trimmed pieces) : piece ∈ pieces := by
  rcases trimmed_cases pieces with ⟨-, heq⟩ | ⟨-, heq⟩
  · rw [heq]
    exact List.mem_append_left _ h
  · rwa [heq]

theorem countP_trimmed (pieces : List (List Char)) :
    (trimmed pieces).countP (fun piece => piece ≠ []) =
      pieces.countP (fun piece => piece ≠ []) := by
  rcases trimmed_cases pieces with ⟨-, heq⟩ | ⟨-, heq⟩
  · conv => rhs; rw [heq]
    simp
  · rw [← heq]

theorem trimmed_cons (h : StartsEntry piece) :
    ∃ rest, trimmed (piece :: pieces) = piece :: rest := by
  rcases trimmed_cases (piece :: pieces) with ⟨-, heq⟩ | ⟨-, heq⟩
  · cases htrimmed : trimmed (piece :: pieces) with
    | nil =>
        rw [htrimmed] at heq
        cases heq
        exact (h.ne_nil rfl).elim
    | cons p rest =>
        rw [htrimmed] at heq
        cases heq
        exact ⟨rest, rfl⟩
  · exact ⟨pieces, heq.symm⟩

theorem intercalate_trimmed (hne : trimmed pieces ≠ []) :
    [listSeparator].intercalate (trimmed pieces) ++ [listSeparator] =
      if pieces.getLast? = some [] then [listSeparator].intercalate pieces
      else [listSeparator].intercalate pieces ++ [listSeparator] := by
  rcases trimmed_cases pieces with ⟨hlast, heq⟩ | ⟨hlast, heq⟩
  · rw [if_pos hlast, ← Text.intercalate_concat_nil hne, ← heq]
  · rw [if_neg hlast, ← heq]

/-! ## What is read of any text -/

/-- The pieces in front of the first one that starts an entry. -/
def earlyPieces (pieces : List (List Char)) : List (List Char) :=
  pieces.takeWhile fun piece => ¬StartsEntry piece

def keptPieces (pieces : List (List Char)) : List (List Char) :=
  pieces.dropWhile fun piece => ¬StartsEntry piece

theorem early_append_kept (pieces : List (List Char)) :
    earlyPieces pieces ++ keptPieces pieces = pieces :=
  List.takeWhile_append_dropWhile

theorem not_startsEntry_of_mem_early (h : piece ∈ earlyPieces pieces) : ¬StartsEntry piece := by
  have hall := List.all_eq_true.1 List.all_takeWhile piece h
  simpa using hall

theorem startsEntry_of_keptPieces {after : List (List Char)}
    (h : keptPieces pieces = piece :: after) : StartsEntry piece := by
  have hhead := List.head?_dropWhile_not (fun piece => decide ¬StartsEntry piece) pieces
  rw [show List.dropWhile _ pieces = piece :: after from h] at hhead
  simpa using hhead

theorem readPieces_trimmed (h : StartsEntry piece) (after : List (List Char)) :
    let kept := trimmed (piece :: after)
    kept ≠ [] ∧ (readPieces kept).skipped = 0 ∧
      ((readPieces kept).entries.flatMap fun e => entryChars e.type e.value.toList) =
        [listSeparator].intercalate kept ++ [listSeparator] := by
  obtain ⟨rest, hrest⟩ : ∃ rest, trimmed (piece :: after) = piece :: rest := trimmed_cons h
  obtain ⟨⟨type, value⟩, hentry⟩ := Option.isSome_iff_exists.1 (startsEntry_iff.1 h)
  dsimp only
  rw [hrest, readPieces, hentry]
  dsimp only
  rw [flatMap_entryChars_entriesAfter, ← entryOf?_eq_some_iff.1 hentry]
  exact ⟨List.cons_ne_nil piece rest, rfl, rfl⟩

/-- What is read are the entries of the pieces that are kept; the others are skipped. -/
theorem parse_eq (s : String) :
    let pieces := Text.fields listSeparator s.toList
    parse s = ⟨(readPieces (trimmed (keptPieces pieces))).entries,
      (earlyPieces pieces).countP fun piece => piece ≠ []⟩ := by
  intro pieces
  have hearly (piece : List Char) (h : piece ∈ earlyPieces pieces) : ¬StartsEntry piece :=
    not_startsEntry_of_mem_early h
  have hpieces : piecesOf s = trimmed (earlyPieces pieces ++ keptPieces pieces) := by
    rw [early_append_kept]
    exact piecesOf_eq s
  rw [parse, hpieces]
  cases hkept : keptPieces pieces with
  | nil =>
      let early := trimmed (earlyPieces pieces)
      have hskip : readPieces (early ++ []) = ⟨(readPieces []).entries,
          early.countP (fun piece => piece ≠ []) + (readPieces []).skipped⟩ :=
        readPieces_append fun piece h => hearly piece (mem_of_mem_trimmed h)
      rw [List.append_nil] at hskip ⊢
      rw [hskip, countP_trimmed]
      rfl
  | cons piece after =>
      obtain ⟨-, hskipped, -⟩ := readPieces_trimmed (startsEntry_of_keptPieces hkept) after
      rw [trimmed_append (List.cons_ne_nil piece after), readPieces_append hearly, hskipped,
        Nat.add_zero]

/-! ## Storing what is read -/

def entryOf (c : Channel) : SelectionEntry :=
  ⟨c.type, c.value⟩

variable {channels : List Channel}

theorem toList_serialize (channels : List Channel) :
    (serialize channels).toList =
      (channels.map entryOf).flatMap fun e => entryChars e.type e.value.toList := by
  rw [serialize, String.toList_ofList, List.flatMap_map]
  rfl

theorem parse_of_toList_eq {kept : List (List Char)} (hne : kept ≠ [])
    (hfree : ∀ piece ∈ kept, listSeparator ∉ piece)
    (h : s.toList = [listSeparator].intercalate kept ++ [listSeparator]) :
    parse s = readPieces kept := by
  rw [parse, piecesOf_eq, h, Text.fields_intercalate_concat hne hfree, trimmed_concat_nil]

/-- What has been read is stored as the pieces that were kept, and it is read from them again. -/
theorem serialize_of_kept {after : List (List Char)}
    (hchannels : channels.map entryOf = (parse s).entries)
    (hkept : keptPieces (Text.fields listSeparator s.toList) = piece :: after) :
    (serialize channels).toList =
        [listSeparator].intercalate (trimmed (piece :: after)) ++ [listSeparator] ∧
      parse (serialize channels) = ⟨(parse s).entries, 0⟩ := by
  obtain ⟨hne, hskipped, hchars⟩ := readPieces_trimmed (startsEntry_of_keptPieces hkept) after
  have hentries : (parse s).entries = (readPieces (trimmed (piece :: after))).entries := by
    rw [parse_eq, hkept]
  have hfree (p : List Char) (hp : p ∈ trimmed (piece :: after)) : listSeparator ∉ p := by
    have hmem : p ∈ keptPieces (Text.fields listSeparator s.toList) := by
      rw [hkept]
      exact mem_of_mem_trimmed hp
    have hpiece : p ∈ Text.fields listSeparator s.toList := by
      rw [← early_append_kept (Text.fields listSeparator s.toList)]
      exact List.mem_append_right _ hmem
    exact Text.sep_notMem_of_mem_fields hpiece
  have hstored : (serialize channels).toList =
      [listSeparator].intercalate (trimmed (piece :: after)) ++ [listSeparator] := by
    rw [toList_serialize, hchannels, hentries, hchars]
  refine ⟨hstored, ?_⟩
  rw [parse_of_toList_eq hne hfree hstored, hentries, ← hskipped]

theorem getLast?_kept {after : List (List Char)}
    (hkept : keptPieces (Text.fields listSeparator s.toList) = piece :: after) :
    s.toList.getLast? = some listSeparator ↔ (piece :: after).getLast? = some [] := by
  have hpieces := early_append_kept (Text.fields listSeparator s.toList)
  rw [hkept] at hpieces
  have hne : s.toList ≠ [] := by
    intro hempty
    have hmem : piece ∈ Text.fields listSeparator s.toList := by
      rw [← hpieces]
      simp
    rw [hempty, Text.fields, List.mem_singleton] at hmem
    exact (startsEntry_of_keptPieces hkept).ne_nil hmem
  rw [Text.getLast?_eq_sep_iff hne, ← hpieces, List.getLast?_append,
    Option.or_of_isSome (List.getLast?_isSome.2 (List.cons_ne_nil piece after))]

theorem toList_eq_early_append_kept {after : List (List Char)}
    (hkept : keptPieces (Text.fields listSeparator s.toList) = piece :: after) :
    s.toList = (earlyPieces (Text.fields listSeparator s.toList)).flatMap (· ++ [listSeparator]) ++
      [listSeparator].intercalate (piece :: after) := by
  rw [← Text.intercalate_append_of_ne_nil (List.cons_ne_nil piece after), ← hkept,
    early_append_kept, Text.intercalate_fields]

/-- Any text can be read, and what is read is stored in a normal form.  With the text split at its
commas, that is the rest of the text from the first piece on that begins with a known type and a
colon, with a comma at its end.  If there is no such piece nothing is read.  The normal form is read
as the same entries and nothing of it is skipped, while a warning is logged for each piece of the
text that is not empty and stands in front of the first entry. -/
theorem parse_normalizes (s : String) (hchannels : channels.map entryOf = (parse s).entries) :
    let pieces := Text.fields listSeparator s.toList
    (keptPieces pieces = [] → (parse s).entries = []) ∧
      (keptPieces pieces ≠ [] → ∃ front suffix : String, s = front ++ suffix ∧
        front.toList = (earlyPieces pieces).flatMap (· ++ [listSeparator]) ∧
        suffix.toList = [listSeparator].intercalate (keptPieces pieces) ∧
        serialize channels =
          if s.toList.getLast? = some listSeparator then suffix else suffix ++ ",") ∧
      parse (serialize channels) = ⟨(parse s).entries, 0⟩ ∧
      (parse s).warnings.length = (earlyPieces pieces).countP fun piece => piece ≠ [] := by
  intro pieces
  have hskipped : (parse s).warnings.length =
      (earlyPieces pieces).countP fun piece => piece ≠ [] := by
    rw [Reading.warnings, List.length_replicate, parse_eq]
  cases hkept : keptPieces pieces with
  | nil =>
      have hnone : (parse s).entries = [] := by
        rw [parse_eq, hkept]
        rfl
      rw [hnone, List.map_eq_nil_iff] at hchannels
      subst hchannels
      refine ⟨fun _ => hnone, fun hne => (hne rfl).elim, ?_, hskipped⟩
      rw [hnone]
      rfl
  | cons piece after =>
      obtain ⟨hstored, hagain⟩ := serialize_of_kept hchannels hkept
      obtain ⟨hne, -⟩ := readPieces_trimmed (startsEntry_of_keptPieces hkept) after
      let front := String.ofList ((earlyPieces pieces).flatMap (· ++ [listSeparator]))
      let suffix := String.ofList ([listSeparator].intercalate (piece :: after))
      have hsplit : s = front ++ suffix := by
        refine String.toList_inj.1 ?_
        rw [String.toList_append, String.toList_ofList, String.toList_ofList]
        exact toList_eq_early_append_kept hkept
      have hsuffix : serialize channels =
          if s.toList.getLast? = some listSeparator then suffix else suffix ++ "," := by
        refine String.toList_inj.1 ?_
        rw [hstored, intercalate_trimmed hne]
        simp only [getLast?_kept hkept]
        split
        · exact String.toList_ofList.symm
        · rw [String.toList_append, String.toList_ofList]
          rfl
      exact ⟨nofun, fun _ => ⟨front, suffix, hsplit, String.toList_ofList, String.toList_ofList,
        hsuffix⟩, hagain, hskipped⟩

/-- Two malformed pieces, an empty one between them, and two entries, of which the first has a comma
in its value: the normal form is the text from the first entry on. -/
theorem parse_normalizes_malformed :
    (parse "x,,FAX:1,SMS:2,3,EMAIL:").entries = [⟨.sms, "2,3"⟩, ⟨.email, ""⟩] ∧
      serialize [⟨.sms, "2,3", true, false⟩, ⟨.email, "", false, true⟩] = "SMS:2,3,EMAIL:," ∧
      (parse "x,,FAX:1,SMS:2,3,EMAIL:").warnings.length = 2 := by
  have hentries : (parse "x,,FAX:1,SMS:2,3,EMAIL:").entries = [⟨.sms, "2,3"⟩, ⟨.email, ""⟩] := by
    decide +kernel
  let channels : List Channel := [⟨.sms, "2,3", true, false⟩, ⟨.email, "", false, true⟩]
  have hchannels : channels.map entryOf = (parse "x,,FAX:1,SMS:2,3,EMAIL:").entries :=
    hentries.symm
  obtain ⟨-, hstored, -, hskipped⟩ := parse_normalizes "x,,FAX:1,SMS:2,3,EMAIL:" hchannels
  refine ⟨hentries, ?_, hskipped.trans (by decide +kernel)⟩
  obtain ⟨front, suffix, -, -, hsuffix, heq⟩ := hstored (by decide +kernel)
  refine heq.trans (String.toList_inj.1 ?_)
  rw [if_neg (by decide +kernel), String.toList_append, hsuffix]
  decide +kernel

end Selection

end AccountRecovery
