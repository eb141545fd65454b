import AccountRecovery.Api.Request
/-!
# Accepted settings

The mark of settings that are accepted has one character, so they have a masker if and only if their
two patterns can be read (`exists_masker_iff`).  Patterns are not looked at when settings are read.
Neither is the time for which codes are valid, which keeps records from memory if it is too long
(`storageOf_isOk_iff`).  All that starting an application does is in `eq_of_start`.
-/

namespace AccountRecovery

theorem exists_of_isOk {ε α : Type} {e : Except ε α} (h : e.isOk = true) : ∃ a, e = .ok a := by
  cases e with
  | error e => cases h
  | ok a => exact ⟨a, rfl⟩

theorem exists_of_any {ε α : Type} {e : Except ε α} {p : α → Bool}
    (h : e.toOption.any p = true) : ∃ a, e = .ok a ∧ p a = true := by
  cases e with
  | error e => cases h
  | ok a => exact ⟨a, rfl, h⟩

/-! ## What forms ensure -/

namespace Form

variable {α β : Type} {p : β → Prop}

theorem Checked.map_eq_valid_iff {f : α → β} {c : Checked α} {b : β} :
    f <$> c = .valid b ↔ ∃ a, c = .valid a ∧ f a = b := by
  cases c with
  | invalid is => exact iff_of_false nofun nofun
  | valid a => simp [Functor.map, Checked.map]

theorem Checked.seq_eq_valid_iff {f : Checked (α → β)} {c : Checked α} {b : β} :
    f <*> c = .valid b ↔ ∃ g a, f = .valid g ∧ c = .valid a ∧ g a = b := by
  cases f with
  | invalid is => cases c <;> exact iff_of_false nofun nofun
  | valid g =>
      cases c with
      | invalid is => exact iff_of_false nofun nofun
      | valid a => simp [Seq.seq, Checked.app]

def Checked.Ensures (p : α → Prop) (c : Checked α) : Prop :=
  ∀ a, c = .valid a → p a

theorem Checked.ensures_map {f : α → β} {c : Checked α} (h : ∀ a, p (f a)) :
    (f <$> c).Ensures p := by
  intro b hb
  obtain ⟨a, -, rfl⟩ := map_eq_valid_iff.1 hb
  exact h a

theorem Checked.ensures_seq {q : α → Prop} {f : Checked (α → β)} {c : Checked α}
    (hf : f.Ensures fun g => ∀ a, q a → p (g a)) (hc : c.Ensures q) : (f <*> c).Ensures p := by
  intro b hb
  obtain ⟨g, a, hg, ha, rfl⟩ := seq_eq_valid_iff.1 hb
  exact hf g hg a (hc a ha)

theorem Checked.ensures_seq_any {f : Checked (α → β)} {c : Checked α}
    (hf : f.Ensures fun g => ∀ a, p (g a)) : (f <*> c).Ensures p :=
  Checked.ensures_seq (q := fun _ => True) (fun g hg a _ => hf g hg a) fun _ _ => trivial

theorem ensures_optional {key : String} {default : β} {value : Json → Checked β}
    {ms : List (String × Json)} (hdefault : p default) (hvalue : ∀ v, (value v).Ensures p) :
    (optional key default value ms).Ensures p := by
  intro b hb
  unfold optional at hb
  split at hb
  · next v _ =>
      cases hread : value v with
      | invalid is =>
          rw [hread] at hb
          cases hb
      | valid a =>
          rw [hread] at hb
          cases hb
          exact hvalue v b hread
  · cases hb
    exact hdefault

theorem ensures_boundedText (least greatest : Nat) (v : Json) :
    (boundedText least (some greatest) v).Ensures fun s =>
      least ≤ s.length ∧ s.length ≤ greatest := by
  intro s hs
  unfold boundedText at hs
  split at hs
  · dsimp only at hs
    split at hs
    · cases hs
    · next hleast =>
        split at hs
        · cases hs
        · next hgreatest =>
            cases hs
            exact ⟨Nat.not_lt.1 hleast, Nat.not_lt.1 hgreatest⟩
  · cases hs

end Form

/-! ## Settings -/

namespace Settings

open Form

variable {s : Settings} {environment : List (String × String)} {file : Option String}

theorem ensures_ofValues (vs : List (String × Json)) :
    (ofValues vs).Ensures fun s => 1 ≤ s.mark.length ∧ s.mark.length ≤ 1 := by
  unfold ofValues
  -- The mark is the eighth of eighteen fields.
  iterate 10 refine Checked.ensures_seq_any ?_
  refine Checked.ensures_seq ?_ (ensures_optional (by decide) (ensures_boundedText 1 1))
  iterate 6 refine Checked.ensures_seq_any ?_
  refine Checked.ensures_map ?_
  intros
  assumption

theorem ofValues_of_read (h : read environment file = .ok s) : ∃ vs, ofValues vs = .valid s := by
  unfold read at h
  simp only [bind, Except.bind] at h
  split at h
  · cases h
  · split at h
    · cases h
    · split at h
      · next hchecked =>
          cases h
          obtain ⟨f, u, hf, -, rfl⟩ := Checked.seq_eq_valid_iff.1 hchecked
          obtain ⟨s, hs, rfl⟩ := Checked.map_eq_valid_iff.1 hf
          exact ⟨_, hs⟩
      · cases h

theorem mark_of_read (h : read environment file = .ok s) : ∃ c, s.mark.toList = [c] := by
  obtain ⟨vs, hvs⟩ := ofValues_of_read h
  obtain ⟨hleast, hgreatest⟩ := ensures_ofValues vs s hvs
  exact List.length_eq_one_iff.1 (Nat.le_antisymm hgreatest hleast)

theorem exists_masker_iff (h : read environment file = .ok s) (characters : Text.CharacterNames) :
    (∃ m, s.masker characters = .ok m) ↔
      (Pattern.parse characters s.emailPattern).isOk ∧
        (Pattern.parse characters s.mobilePattern).isOk := by
  obtain ⟨c, hc⟩ := mark_of_read h
  unfold masker Masker.make
  rw [hc]
  cases Pattern.parse characters s.emailPattern with
  | error e => exact iff_of_false nofun nofun
  | ok email =>
      cases Pattern.parse characters s.mobilePattern with
      | error e => exact iff_of_false nofun nofun
      | ok mobile => exact iff_of_true ⟨_, rfl⟩ ⟨rfl, rfl⟩

end Settings

/-! ## Starting -/

namespace Api.Application

open Database

variable {s : Surroundings} {settings : Settings} {pool : Pool} {app : Application}

/-- Records can be kept in the database, or in memory for no more than so many days. -/
theorem storageOf_isOk_iff :
    (storageOf s settings).isOk ↔
      s.inDatabase = true ∨ -MemoryStore.maxDays ≤ settings.codeTtlSeconds.fdiv 86400 ∧
        settings.codeTtlSeconds.fdiv 86400 ≤ MemoryStore.maxDays := by
  unfold storageOf
  cases s.inDatabase with
  | true => exact iff_of_true rfl (.inl rfl)
  | false =>
      unfold MemoryStore.make
      simp only [Bool.false_eq_true, if_false, false_or]
      split
      · next hlong => exact iff_of_false nofun (by omega)
      · next hshort => exact iff_of_true rfl (by omega)

theorem eq_of_start (h : (start s pool).result = .ok app) :
    ∃ settings opened, Settings.read s.environment s.envFile = .ok settings ∧
      (Session.happen (.pool settings.databaseUrl settings.poolMinSize settings.poolMaxSize)).run
        pool = (.ok (), opened) ∧
      (migrate s.migrationsPath s.migrations opened).result = .ok () ∧
      app = ⟨s, settings, (migrate s.migrationsPath s.migrations opened).pool,
        storageOf s settings, none, 0⟩ := by
  unfold start at h
  split at h
  · cases h
  · next settings hsettings =>
      dsimp only at h
      split at h
      · cases h
      · next opened hopened =>
          split at h
          · cases h
          · next hmigrated =>
              cases h
              exact ⟨settings, opened, hsettings, hopened, hmigrated, rfl⟩

end Api.Application

end AccountRecovery
