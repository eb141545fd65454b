import AccountRecovery.Database.Migration
import AccountRecovery.Proofs.Connections
/-!
# The order of schema changes

The files that hold schema changes are taken in the order of their names (`pairwise_migrationsIn`).
Each is executed on a connection of its own, and it either goes through or fails in one of four ways
(`ScriptFile.Fails`), one of which is that it cannot be read.  So the changes are made file by file
up to the first that fails, and that one is told (`runScripts_cases`).

Main statement: `migrate_in_order`.
-/

namespace AccountRecovery.Database

open Session

/-! ## The files -/

namespace ScriptFile

def IsScript (f : ScriptFile) : Prop :=
  ∃ stem, f.name = stem ++ ".sql"

theorem isSuffixOf_iff_isScript (f : ScriptFile) :
    ".sql".toList.isSuffixOf f.name.toList = true ↔ f.IsScript := by
  rw [List.isSuffixOf_iff_suffix]
  constructor
  · rintro ⟨stem, hname⟩
    refine ⟨String.ofList stem, String.toList_inj.1 ?_⟩
    rw [String.toList_append, String.toList_ofList, hname]
  · rintro ⟨stem, hname⟩
    rw [hname, String.toList_append]
    exact List.suffix_append _ _

instance (f : ScriptFile) : Decidable f.IsScript :=
  decidable_of_iff _ f.isSuffixOf_iff_isScript

def IsReadable (f : ScriptFile) : Prop :=
  ∃ t, f.content = .text t

def events (f : ScriptFile) : List Event :=
  match f.content with
  | .text t => [.connection, .execute (.script t) none, .exit none]
  | .unreadable _ => []

/-- The ways in which the changes of a file are not made, with what happens and the failure that
comes out: the file cannot be read, there is no connection, its text cannot be executed, or the
connection cannot be left.  A failure to leave the connection takes the place of one before. -/
inductive Fails (f : ScriptFile) (p : Pool) : List Event → Failure → Prop
  | unreadable (e : Failure) (content : f.content = .unreadable e) :
      Fails f p [] e
  | refused (t : String) (e : Failure) (content : f.content = .text t)
      (fails : p.failure? .connection = some e) :
      Fails f p [.connection] e
  | broken (t : String) (e : Failure) (content : f.content = .text t)
      (passes : p.failure? .connection = none)
      (fails : (p.after [.connection]).failure? (.execute (.script t) none) = some e) :
      Fails f p [.connection, .execute (.script t) none, .exit (some e)]
        (((p.after [.connection, .execute (.script t) none]).failure? (.exit (some e))).getD e)
  | unleft (t : String) (e : Failure) (content : f.content = .text t)
      (passes : p.Passes [.connection, .execute (.script t) none])
      (fails : (p.after [.connection, .execute (.script t) none]).failure? (.exit none) =
        some e) :
      Fails f p [.connection, .execute (.script t) none, .exit none] e

variable {f : ScriptFile} {p : Pool} {es : List Event} {e : Failure}

theorem events_of_text {t : String} (h : f.content = .text t) :
    f.events = [.connection, .execute (.script t) none, .exit none] := by
  rw [events, h]

theorem Fails.not_passes (h : f.Fails p es e) (readable : f.IsReadable) :
    ¬p.Passes es ∧ ¬p.Passes f.events := by
  cases h with
  | unreadable e content =>
      obtain ⟨t, ht⟩ := readable
      cases content.symm.trans ht
  | refused t e content fails => simp [events_of_text content, Pool.Passes, fails]
  | broken t e content passes fails => simp [events_of_text content, Pool.Passes, fails]
  | unleft t e content passes fails =>
      rw [events_of_text content, and_self]
      rintro ⟨-, -, hexit, -⟩
      rw [Pool.after_after] at hexit
      cases fails.symm.trans hexit

end ScriptFile

theorem migrationsIn_perm (files : List ScriptFile) :
    (migrationsIn files).Perm (files.filter (·.IsScript)) := by
  refine (List.mergeSort_perm _ _).trans (List.Perm.of_eq (List.filter_congr fun f _ => ?_))
  rw [Bool.eq_iff_iff, f.isSuffixOf_iff_isScript, decide_eq_true_eq]

theorem inOrder_iff (f g : ScriptFile) :
    (!decide (g.name < f.name)) = true ↔ f.name ≤ g.name := by
  rw [Bool.not_eq_true', decide_eq_false_iff_not, String.not_lt]

theorem pairwise_migrationsIn (files : List ScriptFile) :
    (migrationsIn files).Pairwise fun f g => f.name ≤ g.name := by
  have hsorted : (migrationsIn files).Pairwise fun f g => !decide (g.name < f.name) := by
    refine List.pairwise_mergeSort (fun f g h hfg hgh => ?_) (fun f g => ?_) _
    · rw [inOrder_iff] at hfg hgh ⊢
      exact String.le_trans hfg hgh
    · rw [Bool.or_eq_true, inOrder_iff, inOrder_iff]
      exact String.le_total f.name g.name
  exact hsorted.imp fun {f g} hfg => (inOrder_iff f g).1 hfg

/-! ## Making the changes -/

theorem run_runScript (f : ScriptFile) (p : Pool) :
    (f.IsReadable ∧ p.Passes f.events ∧ (runScript f).run p = (.ok (), p.after f.events)) ∨
      ∃ es e, f.Fails p es e ∧ (runScript f).run p = (.error e, p.after es) := by
  unfold runScript
  cases hcontent : f.content with
  | unreadable why =>
      refine .inr ⟨[], why, .unreadable why hcontent, ?_⟩
      rw [Pool.after_nil]
      rfl
  | text t =>
      let statement : Event := .execute (.script t) none
      rw [ScriptFile.events_of_text hcontent]
      cases hconnection : p.failure? .connection with
      | some e =>
          exact .inr ⟨_, e, .refused t e hcontent hconnection,
            run_withConnection_of_refused hconnection⟩
      | none =>
          have hstarted (es : List Event) :
              (p.after [.connection]).after es = p.after (.connection :: es) :=
            p.after_after [.connection] es
          cases hstatement : (p.after [.connection]).failure? statement with
          | some e =>
              have hrun := run_withConnection hconnection (run_happen_of_fails hstatement)
              rw [hstarted, Pool.after_after, failureOf] at hrun
              refine .inr ⟨_, _, .broken t e hcontent hconnection hstatement, hrun.trans ?_⟩
              cases hexit : (p.after [.connection, statement]).failure? (.exit (some e)) with
              | none => rfl
              | some e' => rfl
          | none =>
              have hrun := run_withConnection hconnection (run_happen_of_passes hstatement)
              rw [hstarted, Pool.after_after, failureOf] at hrun
              have hpasses : p.Passes [.connection, statement] :=
                ⟨hconnection, hstatement, trivial⟩
              cases hexit : (p.after [.connection, statement]).failure? (.exit none) with
              | some e =>
                  rw [hexit] at hrun
                  exact .inr ⟨_, e, .unleft t e hcontent hpasses hexit, hrun⟩
              | none =>
                  rw [hexit] at hrun
                  have hall : p.Passes ([.connection, statement] ++ [.exit none]) :=
                    Pool.passes_append.2 ⟨hpasses, hexit, trivial⟩
                  exact .inl ⟨⟨t, hcontent⟩, hall, hrun⟩

def eventsOf (fs : List ScriptFile) : List Event :=
  fs.flatMap ScriptFile.events

/-- The changes of all files are made: each can be read, and none of the events fails. -/
def AllMade (fs : List ScriptFile) (p : Pool) : Prop :=
  (∀ f ∈ fs, f.IsReadable) ∧ p.Passes (eventsOf fs)

theorem allMade_nil (p : Pool) : AllMade [] p :=
  ⟨List.forall_mem_nil _, trivial⟩

theorem allMade_cons {f : ScriptFile} {fs : List ScriptFile} {p : Pool} :
    AllMade (f :: fs) p ↔
      (f.IsReadable ∧ p.Passes f.events) ∧ AllMade fs (p.after f.events) := by
  simp only [AllMade, eventsOf, List.flatMap_cons, Pool.passes_append, List.forall_mem_cons]
  exact and_and_and_comm

theorem ScriptFile.Fails.not_allMade {done rest : List ScriptFile} {f : ScriptFile}
    {p : Pool} {es : List Event} {e : Failure} (h : f.Fails (p.after (eventsOf done)) es e) :
    ¬AllMade (done ++ f :: rest) p := by
  rintro ⟨hreadable, hpasses⟩
  rw [eventsOf, List.flatMap_append, List.flatMap_cons, Pool.passes_append,
    Pool.passes_append] at hpasses
  exact (h.not_passes (hreadable f (by simp))).2 hpasses.2.1

/-- The changes are made file by file, all of them or up to the first that fails. -/
theorem runScripts_cases (fs : List ScriptFile) (p : Pool) :
    (AllMade fs p ∧ (runScripts fs p).result = .ok () ∧
        (runScripts fs p).pool = p.after (eventsOf fs)) ∨
      ∃ done f rest es e, fs = done ++ f :: rest ∧ AllMade done p ∧
        f.Fails (p.after (eventsOf done)) es e ∧
        (runScripts fs p).result = .error (.migration f.name e) ∧
        (runScripts fs p).pool = p.after (eventsOf done ++ es) := by
  induction fs generalizing p with
  | nil => exact .inl ⟨allMade_nil p, rfl, p.after_nil.symm⟩
  | cons f fs ih =>
      unfold runScripts
      rcases run_runScript f p with ⟨hreadable, hpasses, hrun⟩ | ⟨es, e, hfails, hrun⟩
      · rw [hrun]
        rcases ih (p.after f.events) with ⟨hrest, hresult, hpool⟩ |
          ⟨done, g, rest, es, e, rfl, hdone, hfails, hresult, hpool⟩
        · refine .inl ⟨allMade_cons.2 ⟨⟨hreadable, hpasses⟩, hrest⟩, hresult, hpool.trans ?_⟩
          rw [Pool.after_after]
          rfl
        · refine .inr ⟨f :: done, g, rest, es, e, rfl,
            allMade_cons.2 ⟨⟨hreadable, hpasses⟩, hdone⟩, ?_, hresult, hpool.trans ?_⟩
          · rwa [Pool.after_after] at hfails
          · rw [Pool.after_after, ← List.append_assoc]
            rfl
      · rw [hrun]
        have hfails : f.Fails (p.after (eventsOf [])) es e := by
          rwa [eventsOf, List.flatMap_nil, Pool.after_nil]
        exact .inr ⟨[], f, fs, es, e, rfl, allMade_nil p, hfails, rfl, rfl⟩

theorem migrate_some (path : String) (files : List ScriptFile) (p : Pool) :
    (migrate path (some files) p).result = (runScripts (migrationsIn files) p).result ∧
      (migrate path (some files) p).pool = (runScripts (migrationsIn files) p).pool := by
  unfold migrate
  dsimp only
  split
  · next hnone =>
      rw [hnone]
      exact ⟨rfl, rfl⟩
  · exact ⟨rfl, rfl⟩

theorem migrate_eq (path : String) (directory : Option (List ScriptFile)) (p : Pool) :
    (migrate path directory p).result =
        (runScripts (migrationsIn (directory.getD [])) p).result ∧
      (migrate path directory p).pool =
        (runScripts (migrationsIn (directory.getD [])) p).pool := by
  cases directory with
  | none =>
      have hnone : migrationsIn [] = [] := List.mergeSort_nil
      rw [Option.getD_none, hnone]
      exact ⟨rfl, rfl⟩
  | some files => exact migrate_some path files p

def scriptTexts (es : List Event) : List String :=
  es.filterMap fun
    | .execute (.script text) _ => some text
    | _ => none

theorem scriptTexts_append (es es' : List Event) :
    scriptTexts (es ++ es') = scriptTexts es ++ scriptTexts es' :=
  List.filterMap_append

theorem map_scriptTexts_eventsOf {fs : List ScriptFile} (readable : ∀ f ∈ fs, f.IsReadable) :
    (scriptTexts (eventsOf fs)).map Content.text = fs.map ScriptFile.content := by
  induction fs with
  | nil => rfl
  | cons f fs ih =>
      obtain ⟨⟨t, ht⟩, hrest⟩ := List.forall_mem_cons.1 readable
      have hfirst : scriptTexts f.events = [t] := by
        rw [ScriptFile.events_of_text ht]
        rfl
      rw [eventsOf, List.flatMap_cons, scriptTexts_append, hfirst, ← eventsOf, List.map_append,
        ih hrest, List.map_cons, List.map_cons, ht]
      rfl

theorem ScriptFile.Fails.map_scriptTexts_prefix {f : ScriptFile} {p : Pool} {es : List Event}
    {e : Failure} (h : f.Fails p es e) : (scriptTexts es).map Content.text <+: [f.content] := by
  cases h with
  | unreadable e content => exact List.nil_prefix
  | refused t e content fails => exact List.nil_prefix
  | broken t e content passes fails => exact content ▸ List.prefix_rfl
  | unleft t e content passes fails => exact content ▸ List.prefix_rfl

/-- Schema changes are the files whose names end in `.sql`, in the order of their names, which are
compared by code points.  What is executed are the texts of the first of them, and nothing else
happens to the pool than that each is executed on a connection of its own, which is left before the
next is taken.  If all can be read and no event fails, all are made.  Otherwise all files before the
one that fails have gone through, nothing happens after it, and the failure that comes out of it is
told with its name; a file that cannot be read fails without a connection.  Without a directory or a
file nothing happens. -/
theorem migrate_in_order (path : String) (directory : Option (List ScriptFile)) (p : Pool) :
    ∃ files es, files.Perm ((directory.getD []).filter (·.IsScript)) ∧
      files.Pairwise (fun f g => f.name ≤ g.name) ∧
      (migrate path directory p).pool = p.after es ∧
      (scriptTexts es).map Content.text <+: files.map ScriptFile.content ∧
      ((∀ f ∈ files, f.IsReadable) → p.Passes es →
        es = eventsOf files ∧ (migrate path directory p).result = .ok ()) ∧
      ((∃ f ∈ files, ¬f.IsReadable) ∨ ¬p.Passes es →
        ∃ done f rest last cause, files = done ++ f :: rest ∧ (∀ g ∈ done, g.IsReadable) ∧
          es = eventsOf done ++ last ∧ p.Passes (eventsOf done) ∧
          f.Fails (p.after (eventsOf done)) last cause ∧
          (migrate path directory p).result = .error (.migration f.name cause)) ∧
      ((directory = none ∨ ∀ f ∈ directory.getD [], ¬f.IsScript) →
        es = [] ∧ (migrate path directory p).result = .ok ()) := by
  obtain ⟨hresult, hpool⟩ := migrate_eq path directory p
  let files := migrationsIn (directory.getD [])
  have hperm : files.Perm ((directory.getD []).filter (·.IsScript)) := migrationsIn_perm _
  have hnone (h : directory = none ∨ ∀ f ∈ directory.getD [], ¬f.IsScript) : files = [] := by
    have hempty : (directory.getD []).filter (·.IsScript) = [] := by
      rcases h with rfl | h
      · rfl
      · exact List.filter_eq_nil_iff.2 fun f hf => by simpa using h f hf
    rw [hempty] at hperm
    exact hperm.eq_nil
  rw [hresult, hpool]
  rcases runScripts_cases files p with ⟨⟨hreadable, hpasses⟩, hok, hafter⟩ |
    ⟨done, f, rest, last, cause, hfiles, ⟨hreadable, hdone⟩, hfails, herror, hafter⟩
  · refine ⟨files, eventsOf files, hperm, pairwise_migrationsIn _, hafter, ?_,
      fun _ _ => ⟨rfl, hok⟩, ?_, fun h => ⟨?_, hok⟩⟩
    · simp only [map_scriptTexts_eventsOf hreadable, List.prefix_rfl]
    · rintro (⟨f, hf, hunreadable⟩ | hbreaks)
      · exact (hunreadable (hreadable f hf)).elim
      · exact (hbreaks hpasses).elim
    · rw [hnone h]
      rfl
  · refine ⟨files, eventsOf done ++ last, hperm, pairwise_migrationsIn _, hafter, ?_,
      fun hall hpasses => ?_,
      fun _ => ⟨done, f, rest, last, cause, hfiles, hreadable, rfl, hdone, hfails, herror⟩,
      fun h => ?_⟩
    · rw [scriptTexts_append, List.map_append, map_scriptTexts_eventsOf hreadable, hfiles,
        List.map_append, List.map_cons]
      refine (List.prefix_append_right_inj _).2 (hfails.map_scriptTexts_prefix.trans ?_)
      exact List.prefix_append [f.content] _
    · have hf : f ∈ files := by simp [hfiles]
      exact ((hfails.not_passes (hall f hf)).1 (Pool.passes_append.1 hpasses).2).elim
    · have hempty := hnone h
      rw [hfiles] at hempty
      simp at hempty

/-- A pool whose second statement fails, and whose connection then cannot be left. -/
def interrupted : Pool where
  faults name n :=
    if name = .execute ∧ n = 2 then some (.general "bad statement")
    else if name = .exit ∧ n = 2 then some (.database ⟨.operational, "connection lost"⟩)
    else none

/-- The third file is not reached, and what is told of the second is that its connection could not
be left. -/
example :
    let done := runScripts [⟨"B.sql", "1"⟩, ⟨"a.sql", "2"⟩, ⟨"b.sql", "3"⟩] interrupted
    done.result = .error (.migration "a.sql" (.database ⟨.operational, "connection lost"⟩)) ∧
      done.pool.events =
        [.connection, .execute (.script "1") none, .exit none, .connection,
          .execute (.script "2") none, .exit (some (.general "bad statement"))] :=
  ⟨rfl, rfl⟩

/-- No connection is taken for a file that cannot be read. -/
example :
    let done := runScripts [⟨"a.sql", "1"⟩, ⟨"b.sql", .unreadable (.general "bytes")⟩] {}
    done.result = .error (.migration "b.sql" (.general "bytes")) ∧
      done.pool.events = [.connection, .execute (.script "1") none, .exit none] :=
  ⟨rfl, rfl⟩

end AccountRecovery.Database
