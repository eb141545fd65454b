import AccountRecovery.Pattern.Match
/-!
# What a pattern matches

The matcher tries the ways through a pattern one by one and turns back where what follows fails.
Which places can be reached from a place, on any way, is a relation (`Reaches`) in which the order
of trying plays no part.

Main statement: the matcher finds a way that what follows accepts if and only if there is one
(`searches_run`).  This holds of the patterns that never hold on to a choice and ask nothing of
their groups (`isPlain`).
-/

namespace AccountRecovery.Pattern

variable {R S : Nat → Nat → Prop} {i j n size : Nat}

/-! ## Turns in a row -/

def Chain (R : Nat → Nat → Prop) : Nat → Nat → Nat → Prop
  | 0, i, j => j = i
  | n + 1, i, j => ∃ m, R i m ∧ Chain R n m j

def Within (budget : Option Nat) (n : Nat) : Prop :=
  ∀ b, budget = some b → n ≤ b

theorem Within.of_le {budget : Option Nat} {m : Nat} (h : Within budget n) (hm : m ≤ n) :
    Within budget m :=
  fun b hb => Nat.le_trans hm (h b hb)

theorem Within.succ {budget : Option Nat} (h : Within (budget.map (· - 1)) n)
    (hbudget : budget ≠ some 0) : Within budget (n + 1) := by
  rintro b rfl
  have hpred : n ≤ b - 1 := h _ rfl
  have hpos : b ≠ 0 := fun hb => hbudget (by rw [hb])
  omega

theorem Within.pred {budget : Option Nat} (h : Within budget (n + 1)) :
    Within (budget.map (· - 1)) n ∧ budget ≠ some 0 := by
  refine ⟨fun b hb => ?_, ?_⟩
  · obtain ⟨b', rfl, rfl⟩ := Option.map_eq_some_iff.1 hb
    have hle := h b' rfl
    omega
  · rintro rfl
    exact Nat.not_succ_le_zero n (h 0 rfl)

/-- The relation leads forward, and not beyond a text of this size. -/
def Forward (size : Nat) (R : Nat → Nat → Prop) : Prop :=
  ∀ i j, R i j → j = i ∨ i < j ∧ j ≤ size

theorem Forward.seq (hR : Forward size R) (hS : Forward size S) :
    Forward size fun i j => ∃ m, R i m ∧ S m j := by
  rintro i j ⟨m, hfirst, hsecond⟩
  have hfirst := hR i m hfirst
  have hsecond := hS m j hsecond
  omega

theorem Forward.chain (h : Forward size R) (n : Nat) : Forward size (Chain R n) := by
  induction n with
  | zero => exact fun i j heq => .inl heq
  | succ n ih => exact h.seq ih

/-- Turns that do not move can be left out, so as many are enough as there are places to move. -/
theorem Chain.strict (h : Chain R n i j) (forward : Forward size R) :
    ∃ m ≤ n, (m = 0 ∨ i + m ≤ size) ∧ Chain (fun i j => R i j ∧ i < j) m i j := by
  induction n generalizing i with
  | zero => exact ⟨0, Nat.le_refl 0, .inl rfl, h⟩
  | succ n ih =>
      obtain ⟨k, hfirst, hrest⟩ := h
      obtain ⟨m, hm, hsize, hchain⟩ := ih hrest
      rcases forward i k hfirst with rfl | ⟨hlt, hk⟩
      · exact ⟨m, Nat.le_succ_of_le hm, hsize, hchain⟩
      · exact ⟨m + 1, Nat.succ_le_succ hm, .inr (by omega), k, ⟨hfirst, hlt⟩, hchain⟩

/-! ## Searches -/

/-- A part of a pattern searches a relation: what follows gets threads only at places to which the
relation leads, and the part fails only if what follows fails at all of these. -/
structure Searches (body : Step) (R : Nat → Nat → Prop) : Prop where
  sound : ∀ {t : Thread} {k : Thread → Option Thread} {u : Thread}, body t k = some u →
    ∃ j groups, R t.pos j ∧ k ⟨j, groups⟩ = some u
  complete : ∀ {t : Thread} {k : Thread → Option Thread} {j : Nat}, R t.pos j →
    (∀ groups, (k ⟨j, groups⟩).isSome = true) → (body t k).isSome = true

variable {body first second : Step}

theorem Searches.seq (hfirst : Searches first R) (hsecond : Searches second S) :
    Searches (fun t k => first t fun u => second u k) fun i j => ∃ m, R i m ∧ S m j where
  sound h := by
    obtain ⟨m, groups, hm, hrest⟩ := hfirst.sound h
    obtain ⟨j, groups, hj, hk⟩ := hsecond.sound hrest
    exact ⟨j, groups, ⟨m, hm, hj⟩, hk⟩
  complete := by
    rintro t k j ⟨m, hm, hj⟩ hk
    exact hfirst.complete hm fun groups => hsecond.complete hj hk

theorem Searches.turns (h : Searches body R) (n : Nat) : Searches (turns body n) (Chain R n) := by
  induction n with
  | zero =>
      refine ⟨fun {t k u} hu => ⟨t.pos, t.groups, rfl, hu⟩, fun {t k j} hj hk => ?_⟩
      cases hj
      exact hk t.groups
  | succ n ih => exact h.seq ih

theorem Searches.isSome_iff (h : Searches body R) {t : Thread} :
    (body t some).isSome = true ↔ ∃ j, R t.pos j := by
  constructor
  · intro hsome
    obtain ⟨u, hu⟩ := Option.isSome_iff_exists.1 hsome
    obtain ⟨j, groups, hj, -⟩ := h.sound hu
    exact ⟨j, hj⟩
  · rintro ⟨j, hj⟩
    exact h.complete hj fun groups => rfl

/-! ## Further turns -/

/-- How a repetition goes on from a thread: it rests, that is, goes on to what follows, or it takes
another turn.  Which of the two it tries first is left open. -/
structure TakesTurns (body : Step) (k : Thread → Option Thread)
    (further : (fuel : Nat) → (budget last : Option Nat) → Thread → Option Thread) : Prop where
  rests : ∀ {fuel budget last t}, (k t).isSome = true →
    (further fuel budget last t).isSome = true
  turns : ∀ {fuel budget last t}, budget ≠ some 0 → last ≠ some t.pos →
    (body t fun u => further fuel (budget.map (· - 1)) (some t.pos) u).isSome = true →
      (further (fuel + 1) budget last t).isSome = true
  cases : ∀ {fuel budget last t u}, further fuel budget last t = some u →
    k t = some u ∨ ∃ fuel', fuel = fuel' + 1 ∧ budget ≠ some 0 ∧
      (body t fun u => further fuel' (budget.map (· - 1)) (some t.pos) u) = some u

theorem takesTurns_greedy (body : Step) (k : Thread → Option Thread) :
    TakesTurns body k (greedyTurns body k) where
  rests {fuel budget last t} hk := by
    cases fuel with
    | zero => exact hk
    | succ fuel =>
        rw [greedyTurns]
        split
        · exact hk
        · split
          · rfl
          · exact hk
  turns {fuel budget last t} hbudget hlast hturn := by
    rw [greedyTurns, if_neg (not_or.2 ⟨hbudget, hlast⟩)]
    split
    · rfl
    · next hnone =>
        rw [hnone] at hturn
        cases hturn
  cases {fuel budget last t u} hu := by
    cases fuel with
    | zero => exact .inl hu
    | succ fuel =>
        rw [greedyTurns] at hu
        split at hu
        · exact .inl hu
        · next hgoes =>
            split at hu
            · next found hturn =>
                cases hu
                exact .inr ⟨fuel, rfl, fun hb => hgoes (.inl hb), hturn⟩
            · exact .inl hu

theorem takesTurns_lazy (body : Step) (k : Thread → Option Thread) :
    TakesTurns body k (lazyTurns body k) where
  rests {fuel budget last t} hk := by
    cases fuel with
    | zero => exact hk
    | succ fuel =>
        rw [lazyTurns]
        split
        · rfl
        · next hnone =>
            rw [hnone] at hk
            cases hk
  turns {fuel budget last t} hbudget hlast hturn := by
    rw [lazyTurns]
    split
    · rfl
    · rwa [if_neg (not_or.2 ⟨hbudget, hlast⟩)]
  cases {fuel budget last t u} hu := by
    cases fuel with
    | zero => exact .inl hu
    | succ fuel =>
        rw [lazyTurns] at hu
        split at hu
        · next found hk =>
            cases hu
            exact .inl hk
        · split at hu
          · cases hu
          · next hgoes => exact .inr ⟨fuel, rfl, fun hb => hgoes (.inl hb), hu⟩

section Further

variable {k : Thread → Option Thread}
  {further : (fuel : Nat) → (budget last : Option Nat) → Thread → Option Thread}
  {fuel : Nat} {budget last : Option Nat} {t u : Thread}

theorem TakesTurns.sound (hf : TakesTurns body k further) (h : Searches body R)
    (hu : further fuel budget last t = some u) :
    ∃ j groups, (∃ n, Within budget n ∧ Chain R n t.pos j) ∧ k ⟨j, groups⟩ = some u := by
  induction fuel generalizing budget last t with
  | zero =>
      rcases hf.cases hu with hk | ⟨fuel', hfuel, -⟩
      · exact ⟨t.pos, t.groups, ⟨0, fun b _ => Nat.zero_le b, rfl⟩, hk⟩
      · cases hfuel
  | succ fuel ih =>
      rcases hf.cases hu with hk | ⟨fuel', hfuel, hbudget, hturn⟩
      · exact ⟨t.pos, t.groups, ⟨0, fun b _ => Nat.zero_le b, rfl⟩, hk⟩
      · cases hfuel
        obtain ⟨m, groups, hm, hrest⟩ := h.sound hturn
        obtain ⟨j, groups, ⟨n, hn, hchain⟩, hk⟩ := ih hrest
        exact ⟨j, groups, ⟨n + 1, hn.succ hbudget, m, hm, hchain⟩, hk⟩

theorem TakesTurns.complete (hf : TakesTurns body k further) (h : Searches body R)
    (hchain : Chain (fun i j => R i j ∧ i < j) n t.pos j) (hbudget : Within budget n)
    (hfuel : n ≤ fuel) (hlast : last ≠ some t.pos)
    (hk : ∀ groups, (k ⟨j, groups⟩).isSome = true) :
    (further fuel budget last t).isSome = true := by
  induction n generalizing fuel budget last t with
  | zero =>
      cases hchain
      exact hf.rests (hk t.groups)
  | succ n ih =>
      obtain ⟨m, ⟨hm, hlt⟩, hrest⟩ := hchain
      obtain ⟨hbudget', hzero⟩ := hbudget.pred
      obtain ⟨fuel, rfl⟩ := Nat.exists_eq_add_one.2 (Nat.zero_lt_of_lt hfuel)
      refine hf.turns hzero hlast (h.complete hm fun groups => ?_)
      exact ih (t := ⟨m, groups⟩) hrest hbudget' (Nat.le_of_succ_le_succ hfuel)
        fun heq => Nat.ne_of_lt hlt (Option.some.inj heq)

end Further

/-- With fuel above the size of the text, no way of taking further turns is lost. -/
theorem Searches.further (h : Searches body R) (forward : Forward size R)
    {f : (Thread → Option Thread) → Nat → Option Nat → Option Nat → Thread → Option Thread}
    (hf : ∀ k, TakesTurns body k (f k)) (budget : Option Nat) :
    Searches (fun t k => f k (size + 2) budget none t)
      fun i j => ∃ n, Within budget n ∧ Chain R n i j where
  sound hu := (hf _).sound h hu
  complete := by
    rintro t k j ⟨n, hn, hchain⟩ hk
    obtain ⟨m, hm, hsize, hstrict⟩ := hchain.strict forward
    exact (hf k).complete h hstrict (hn.of_le hm) (by omega) nofun hk

/-! ## Patterns -/

/-- Whether a pattern leads from one place of a text to another, on any way. -/
def Reaches (text : Array Char) : Pattern → Nat → Nat → Prop
  | empty, i, j => j = i
  | one test, i, j => j = i + 1 ∧ ∃ c, text[i]? = some c ∧ test.holds c = true
  | anchor a, i, j => j = i ∧ a.holds text i = true
  | seq p q, i, j => ∃ m, Reaches text p i m ∧ Reaches text q m j
  | alt p q, i, j => Reaches text p i j ∨ Reaches text q i j
  | repeated p least greatest _, i, j =>
    ∃ m, Chain (Reaches text p) least i m ∧
      ∃ n, Within (greatest.map (· - least)) n ∧ Chain (Reaches text p) n m j
  | group _ p, i, j => Reaches text p i j
  | again .., _, _ => False
  | look behind negated p, i, j =>
    j = i ∧ ((behind.getD 0 ≤ i ∧ ∃ m, Reaches text p (i - behind.getD 0) m) ↔ negated = false)
  | atomic p, i, j => Reaches text p i j
  | ifGroup _ p q, i, j => Reaches text p i j ∨ Reaches text q i j

/-- Whether a pattern neither holds on to a choice that it has made nor asks what a group has
matched. -/
def isPlain : Pattern → Bool
  | empty => true
  | one _ => true
  | anchor _ => true
  | seq p q => p.isPlain && q.isPlain
  | alt p q => p.isPlain && q.isPlain
  | repeated p _ _ greed => greed != .possessive && p.isPlain
  | group _ p => p.isPlain
  | again .. => false
  | look _ _ p => p.isPlain
  | atomic _ => false
  | ifGroup .. => false

theorem forward_reaches (text : Array Char) (p : Pattern) :
    Forward text.size (Reaches text p) := by
  induction p with
  | empty => exact fun i j h => .inl h
  | one test =>
      rintro i j ⟨rfl, c, hc, -⟩
      obtain ⟨hlt, -⟩ := Array.getElem?_eq_some_iff.1 hc
      exact .inr ⟨Nat.lt_succ_self i, hlt⟩
  | anchor a => exact fun i j h => .inl h.1
  | seq p q ihp ihq => exact ihp.seq ihq
  | alt p q ihp ihq => exact fun i j h => h.elim (ihp i j) (ihq i j)
  | repeated p least greatest greed ih =>
      refine (ih.chain least).seq ?_
      rintro i j ⟨n, -, hchain⟩
      exact ih.chain n i j hchain
  | group index p ih => exact ih
  | again index casing => exact fun i j h => h.elim
  | look behind negated p ih => exact fun i j h => .inl h.1
  | atomic p ih => exact ih
  | ifGroup index p q ihp ihq => exact fun i j h => h.elim (ihp i j) (ihq i j)

/-! ## The matcher -/

section Run

variable (text : Array Char) {p q : Pattern}

theorem searches_empty : Searches (run text .empty) (Reaches text .empty) where
  sound {t k u} hu := ⟨t.pos, t.groups, rfl, hu⟩
  complete := by
    rintro t k j rfl hk
    exact hk t.groups

theorem searches_one (test : CharTest) :
    Searches (run text (.one test)) (Reaches text (.one test)) where
  sound {t k u} hu := by
    rw [run] at hu
    split at hu
    · next c hc =>
        split at hu
        · next hholds => exact ⟨t.pos + 1, t.groups, ⟨rfl, c, hc, hholds⟩, hu⟩
        · cases hu
    · cases hu
  complete := by
    rintro t k j ⟨rfl, c, hc, hholds⟩ hk
    rw [run, hc]
    dsimp only
    rw [if_pos hholds]
    exact hk t.groups

theorem searches_anchor (a : Anchor) :
    Searches (run text (.anchor a)) (Reaches text (.anchor a)) where
  sound {t k u} hu := by
    rw [run] at hu
    split at hu
    · next hholds => exact ⟨t.pos, t.groups, ⟨rfl, hholds⟩, hu⟩
    · cases hu
  complete := by
    rintro t k j ⟨rfl, hholds⟩ hk
    rw [run, if_pos hholds]
    exact hk t.groups

variable {text}

theorem Searches.alt (hp : Searches (run text p) (Reaches text p))
    (hq : Searches (run text q) (Reaches text q)) :
    Searches (run text (.alt p q)) (Reaches text (.alt p q)) where
  sound {t k u} hu := by
    rw [run] at hu
    split at hu
    · next found hfound =>
        cases hu
        obtain ⟨j, groups, hj, hk⟩ := hp.sound hfound
        exact ⟨j, groups, .inl hj, hk⟩
    · obtain ⟨j, groups, hj, hk⟩ := hq.sound hu
      exact ⟨j, groups, .inr hj, hk⟩
  complete {t k j} hj hk := by
    rw [run]
    split
    · rfl
    · next hnone =>
        rcases hj with hj | hj
        · have hfound := hp.complete hj hk
          rw [hnone] at hfound
          cases hfound
        · exact hq.complete hj hk

theorem Searches.group (hp : Searches (run text p) (Reaches text p)) (index : Nat) :
    Searches (run text (.group index p)) (Reaches text (.group index p)) where
  sound hu := by
    obtain ⟨j, groups, hj, hk⟩ := hp.sound hu
    exact ⟨j, _, hj, hk⟩
  complete hj hk := hp.complete hj fun groups => hk _

theorem Searches.look (hp : Searches (run text p) (Reaches text p)) (behind : Option Nat)
    (negated : Bool) :
    Searches (run text (.look behind negated p)) (Reaches text (.look behind negated p)) := by
  have hfound (t : Thread) :
      (if t.pos < behind.getD 0 then none
        else run text p { t with pos := t.pos - behind.getD 0 } some).isSome = true ↔
        behind.getD 0 ≤ t.pos ∧ ∃ m, Reaches text p (t.pos - behind.getD 0) m := by
    split
    · next hlt => exact iff_of_false Bool.false_ne_true fun h => Nat.not_le.2 hlt h.1
    · next hge =>
        rw [hp.isSome_iff]
        exact (and_iff_right (Nat.not_lt.1 hge)).symm
  constructor
  · intro t k u hu
    have hiff := hfound t
    unfold run at hu
    dsimp only at hu
    split at hu
    · next found hsome =>
        rw [hsome] at hiff
        exact ⟨t.pos, found.groups, ⟨rfl, iff_of_true (hiff.1 rfl) rfl⟩, hu⟩
    · next hnone =>
        rw [hnone] at hiff
        exact ⟨t.pos, t.groups, ⟨rfl, iff_of_false (fun h => nomatch hiff.2 h) nofun⟩, hu⟩
    · cases hu
  · rintro t k j ⟨rfl, hj⟩ hk
    rw [← hfound t] at hj
    unfold run
    dsimp only
    cases negated with
    | false =>
        obtain ⟨found, hsome⟩ := Option.isSome_iff_exists.1 (hj.2 rfl)
        rw [hsome]
        exact hk found.groups
    | true =>
        have hnone := Option.not_isSome_iff_eq_none.1 (mt hj.1 nofun)
        rw [hnone]
        exact hk t.groups

variable (text)

/-- The matcher finds a way through a plain pattern if there is one. -/
theorem searches_run (plain : p.isPlain = true) : Searches (run text p) (Reaches text p) := by
  induction p with
  | empty => exact searches_empty text
  | one test => exact searches_one text test
  | anchor a => exact searches_anchor text a
  | seq p q ihp ihq =>
      rw [isPlain, Bool.and_eq_true] at plain
      exact (ihp plain.1).seq (ihq plain.2)
  | alt p q ihp ihq =>
      rw [isPlain, Bool.and_eq_true] at plain
      exact (ihp plain.1).alt (ihq plain.2)
  | repeated p least greatest greed ih =>
      rw [isPlain, Bool.and_eq_true, bne_iff_ne] at plain
      have hbody := ih plain.2
      have hforward := forward_reaches text p
      cases greed with
      | greedy => exact (hbody.turns least).seq (hbody.further hforward (takesTurns_greedy _) _)
      | lazy => exact (hbody.turns least).seq (hbody.further hforward (takesTurns_lazy _) _)
      | possessive => exact (plain.1 rfl).elim
  | group index p ih => exact (ih plain).group index
  | again index casing => cases plain
  | look behind negated p ih => exact (ih plain).look behind negated
  | atomic p ih => cases plain
  | ifGroup index p q ihp ihq => cases plain

end Run

/-! ## Single matches -/

section Ends

variable {text : Array Char} {p : Pattern}

theorem reaches_of_matchEnd? {accepts : Nat → Bool} (plain : p.isPlain = true)
    (h : p.matchEnd? text i accepts = some j) : Reaches text p i j ∧ accepts j = true := by
  obtain ⟨u, hu, rfl⟩ := Option.map_eq_some_iff.1 h
  obtain ⟨j, groups, hj, hk⟩ := (searches_run text plain).sound hu
  split at hk
  · next haccepts =>
      cases hk
      exact ⟨hj, haccepts⟩
  · cases hk

theorem isSome_matchEnd? (plain : p.isPlain = true) (h : Reaches text p i j)
    (accepts : Nat → Bool) (haccepts : accepts j = true) :
    (p.matchEnd? text i accepts).isSome = true := by
  rw [matchEnd?, Option.isSome_map]
  refine (searches_run text plain).complete h fun groups => ?_
  rw [if_pos haccepts]
  rfl

end Ends

end AccountRecovery.Pattern
