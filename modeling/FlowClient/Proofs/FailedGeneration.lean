import FlowClient.Proofs.Generation

/-! Generations that fail. One that cannot be planned, or that is refused for what is there, changes nothing; one
that fails later may leave the output directory emptied and a part of the package written. -/

namespace FlowClient

open Command (generate)

/-- The failure comes after the output directory may have been changed. -/
def Failure.late : Failure → Bool
  | notRemoved _ _ | outputNotMade _ _ | directoryNotMade _ _ | notWritten _ _ => true
  | _ => false

theorem Failure.Preparing.late {why : Failure} (preparing : why.Preparing) : why.late = true := by
  cases preparing <;> rfl

theorem Failure.Writing.late {why : Failure} (writing : why.Writing) : why.late = true := by
  cases writing <;> rfl

section Plans

variable {w : World} {flags : GenerateFlags} {why : Failure}

theorem bind_error {ε α β : Type} {x : Except ε α} {f : α → Except ε β} {e : ε}
    (failed : x >>= f = .error e) : x = .error e ∨ ∃ a, x = .ok a ∧ f a = .error e := by
  cases x with
  | error cause =>
    cases failed
    exact .inl rfl
  | ok a => exact .inr ⟨a,rfl,failed⟩

theorem mapError_early {ε α : Type} {failure : ε → Failure} {x : Except ε α}
    (early : ∀ e, (failure e).late = false) (failed : x.mapError failure = .error why) : why.late = false := by
  obtain ⟨e,rfl⟩ := mapError_error failed
  exact early e

theorem document_early {path : String} (failed : w.document path = .error why) : why.late = false := by
  unfold World.document at failed
  split at failed
  · cases failed
    rfl
  · dsimp only at failed
    split at failed
    · exact mapError_early (fun _ => rfl) failed
    · split at failed
      · exact mapError_early (fun _ => rfl) failed
      · cases failed
        rfl

theorem plan_early (failed : w.plan flags = .error why) : why.late = false := by
  rcases bind_error failed with loaded | ⟨found,_,failed⟩
  · exact mapError_early (fun _ => rfl) loaded
  · rcases bind_error failed with read | ⟨document,_,failed⟩
    · exact document_early read
    · rcases bind_error failed with converted | ⟨client,_,failed⟩
      · exact mapError_early (fun _ => rfl) converted
      · cases failed

end Plans

/-- What a generation by a plan leaves where it fails late: the files below the output directory may be gone, and
some of the package may be written. -/
def World.Broken (w : World) (p : Plan) (why : Failure) (after : World) : Prop :=
  (p.config.force = false → w.tree.vacated p.output = w.tree.file?) ∧
    ∃ done rest, p.files = done ++ rest ∧ rest ≠ [] ∧ (why.Preparing → done = []) ∧
      after.tree.file? = written (w.tree.place p.output) done (w.tree.vacated p.output)

theorem generated_error {w after : World} {p : Plan} {why : Failure}
    (generated : Generated p w (.error why) after) :
    why.late = false ∧ after = w ∨ why.late = true ∧ w.Broken p why after := by
  cases generated with
  | unprepared failed =>
    cases failed with
    | refused present careful => exact .inl ⟨rfl,rfl⟩
    | failed guarded preparing left =>
      exact .inr ⟨preparing.late,fun careful => vacated_absent (absent_careful guarded careful),
        [],p.files,rfl,files_ne_nil p,fun _ => rfl,left.files⟩
  | prepared ready wrote =>
    cases ready with
    | done guarded _ _ =>
      cases wrote with
      | @part _ _ done rest writing parts unfinished _ left =>
        refine .inr ⟨writing.late,fun careful => vacated_absent (absent_careful guarded careful),
          done,rest,parts,unfinished,?_,left.files⟩
        intro preparing
        cases writing <;> cases preparing

/-- A generation that fails leaves the world as it was, unless it fails at preparing the output directory or at
writing files. Then the files below that directory are gone where it was there, which takes force, and some
files of the package may have been written, though never all. -/
theorem generation_failed {w after : World} {flags : GenerateFlags} {why : Failure}
    (ran : outcome (generate flags) w = (.error why,after)) :
    (why.late = false → after = w) ∧
      (why.late = true → ∃ p, w.plan flags = .ok p ∧ w.Broken p why after) := by
  rw [generate_planned] at ran
  cases planned : w.plan flags with
  | error cause =>
    rw [planned] at ran
    cases ran
    have early := plan_early planned
    exact ⟨fun _ => rfl,fun late => by simp [early] at late⟩
  | ok p =>
    rw [planned] at ran
    rcases generated_error (produce_cases ran) with ⟨early,same⟩ | ⟨late,broken⟩
    · exact ⟨fun _ => same,fun late => by simp [early] at late⟩
    · exact ⟨fun early => by simp [late] at early,fun _ => ⟨p,rfl,broken⟩⟩

def nulText : String :=
  "\x7b\"swagger\":\"2.0\",\"info\":\x7b\"title\":\"Nul\",\"version\":\"1\"\x7d," ++
  "\"paths\":\x7b\x7d,\"definitions\":\x7b\"Pet\\u0000\":\x7b\x7d\x7d\x7d"

def nulWorld : World where
  tree := {
    entries := [(["work"],.directory), (["work","api.json"],.file nulText),
      (["work","out"],.directory), (["work","out","old.js"],.file "mine\n")]
    start := ["work"] }

def nulFlags : GenerateFlags := { input := some "api.json", output := some "out", force := true }

theorem nul_run : ∃ after, outcome (generate nulFlags) nulWorld =
    (.error (.notWritten "out/types/Pet\x00.js" .nulInName),after) ∧
      after.tree.file? ["work","out","old.js"] = none := by
  apply exists_after
  decide +kernel

theorem generation_failed_nul : ∃ after p, outcome (generate nulFlags) nulWorld =
      (.error (.notWritten "out/types/Pet\x00.js" .nulInName),after) ∧
    nulWorld.plan nulFlags = .ok p ∧
      nulWorld.Broken p (.notWritten "out/types/Pet\x00.js" .nulInName) after := by
  obtain ⟨after,ran,_⟩ := nul_run
  obtain ⟨p,planned,broken⟩ := (generation_failed ran).2 rfl
  exact ⟨after,p,ran,planned,broken⟩

/-- The run fails, and a file that was there before it is gone. -/
theorem failed_run_removes : ∃ why after, outcome (generate nulFlags) nulWorld = (.error why,after) ∧
    nulWorld.tree.file? ["work","out","old.js"] = some "mine\n" ∧
      after.tree.file? ["work","out","old.js"] = none := by
  obtain ⟨after,ran,gone⟩ := nul_run
  exact ⟨_,after,ran,by decide +kernel,gone⟩

end FlowClient
