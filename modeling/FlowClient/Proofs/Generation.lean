import FlowClient.Proofs.Outcomes

/-! Runs of a generation on a tree of files. It reads a plan and changes nothing; then it prepares the output
directory and writes the files one after the other, until one of these steps fails. -/

namespace FlowClient

open FileTree (cleared Usable bind_ok)
open Command (access prepareOutput writeFile generate)

/-- What is left of the files where the directory of this path, if there is one, is removed. -/
def FileTree.vacated (t : FileTree) (path : String) : Trail → Option String :=
  if t.kind? path = some .directory then cleared (t.place path) t.file? else t.file?

/-- The files seen after these are written in a directory, one after the other. -/
def written (out : Trail) (files : List File) (view : Trail → Option String) : Trail → Option String :=
  files.foldl (fun view f => Function.update view (Path.land out f.path) (some f.content)) view

theorem written_cases (out : Trail) (files : List File) (view : Trail → Option String) (trail : Trail) :
    ((∀ f ∈ files, Path.land out f.path ≠ trail) ∧ written out files view trail = view trail) ∨
      ∃ f ∈ files, Path.land out f.path = trail ∧ written out files view trail = some f.content := by
  induction files using List.reverseRecOn with
  | nil => exact .inl ⟨by simp,rfl⟩
  | append_singleton files f ih =>
    rw [written,List.foldl_append,List.foldl_cons,List.foldl_nil,Function.update_apply]
    by_cases last : trail = Path.land out f.path
    · rw [if_pos last]
      exact .inr ⟨f,by simp,last.symm,rfl⟩
    · rw [if_neg last]
      rcases ih with ⟨apart,kept⟩ | ⟨g,member,landed,content⟩
      · refine .inl ⟨?_,kept⟩
        rw [List.forall_mem_append,List.forall_mem_singleton]
        exact ⟨apart,Ne.symm last⟩
      · exact .inr ⟨g,List.mem_append_left _ member,landed,content⟩

inductive Failure.Preparing : Failure → Prop
  | removal (path : String) (why : FileError) : (notRemoved path why).Preparing
  | output (path : String) (why : FileError) : (outputNotMade path why).Preparing

inductive Failure.Writing : Failure → Prop
  | directory (path : String) (why : FileError) : (directoryNotMade path why).Writing
  | file (path : String) (why : FileError) : (notWritten path why).Writing

/-- The settings of a generation, its document and the client for it. -/
structure Plan where
  config : Config
  document : Document
  client : Client

namespace Plan

def files (p : Plan) : List File := p.client.files (some p.config.package)

def output (p : Plan) : String := p.config.output

end Plan

/-- What a generation goes by in a world: flags before the configuration, and these before the document. -/
def World.plan (w : World) (flags : GenerateFlags) : Except Failure Plan := do
  let found ← w.config?.mapError .configuration
  let config := flags.apply (found.getD {})
  let document ← w.document config.input
  let client ← (document.client config.overrides).mapError (.conversionOf config.input)
  return ⟨config,document,client⟩

theorem plan_ok {w : World} {flags : GenerateFlags} {p : Plan} (planned : w.plan flags = .ok p) :
    ∃ found, w.config? = .ok found ∧ p.config = flags.apply (found.getD {}) ∧
      w.document p.config.input = .ok p.document ∧
      p.document.client p.config.overrides = .ok p.client := by
  obtain ⟨found,loaded,planned⟩ := bind_ok planned
  obtain ⟨document,read,planned⟩ := bind_ok planned
  obtain ⟨client,made,planned⟩ := bind_ok planned
  cases planned
  exact ⟨found,mapError_ok loaded,rfl,read,mapError_ok made⟩

section Preparation

/-- Ways in which the output directory of this path comes to be prepared, or fails to be. -/
inductive Prepared (path : String) (force : Bool) (w : World) : Except Failure Unit → World → Prop
  | refused (present : (w.tree.kind? path).isSome = true) (careful : force = false) :
    Prepared path force w (.error (.present path)) w
  | failed {why : Failure} {after : World} (guarded : (w.tree.kind? path).isSome = true → force = true)
    (preparing : why.Preparing) (left : Shows w (w.tree.vacated path) after) :
    Prepared path force w (.error why) after
  | done {after : World} (guarded : (w.tree.kind? path).isSome = true → force = true)
    (free : w.tree.kind? path ≠ some .file) (left : Shows w (w.tree.vacated path) after) :
    Prepared path force w (.ok ()) after

variable {path : String} {w after : World} {r : Except Failure Unit}

theorem vacated_absent {t : FileTree} (absent : t.kind? path = none) : t.vacated path = t.file? := by
  rw [FileTree.vacated,absent,if_neg nofun]

theorem absent_careful {t : FileTree} {force : Bool} (guarded : (t.kind? path).isSome = true → force = true)
    (careful : force = false) : t.kind? path = none := by
  rw [← Option.not_isSome_iff_eq_none]
  intro present
  rw [guarded present] at careful
  cases careful

theorem makeOutput_cases (ran : outcome (access (.outputNotMade path) (FileSystem.makeDirectories path)) w =
    (r,after)) : SameFiles w after ∧ ∀ why, r = .error why → why.Preparing := by
  refine ⟨access_keeps (keeps_makeDirectories path) ran,?_⟩
  rintro why rfl
  obtain ⟨e,rfl⟩ := access_error ran
  exact .output path e

theorem remove_cases (present : (w.tree.kind? path).isSome = true)
    (ran : outcome (access (.notRemoved path) (FileSystem.removeDirectory path)) w = (r,after)) :
    Shows w (w.tree.vacated path) after ∧ (r = .ok () → w.tree.kind? path ≠ some .file) ∧
      ∀ why, r = .error why → why.Preparing := by
  have failing : ∀ why, r = .error why → why.Preparing := by
    rintro why rfl
    obtain ⟨e,rfl⟩ := access_error ran
    exact .removal path e
  have same : ((w.tree.removeDirectory path).2.mapError (.notRemoved path),
      { w with tree := (w.tree.removeDirectory path).1 }) = (r,after) := ran
  obtain ⟨rfl,rfl⟩ := Prod.mk.inj same
  rw [FileTree.vacated]
  cases seen : w.tree.kind? path with
  | none =>
    rw [seen] at present
    cases present
  | some what =>
    cases what with
    | directory =>
      obtain ⟨start,files⟩ := FileTree.removeDirectory_directory seen
      exact ⟨⟨start,files⟩,fun _ => nofun,failing⟩
    | file =>
      obtain ⟨why,removed⟩ := FileTree.removeDirectory_file seen
      rw [removed]
      exact ⟨⟨rfl,rfl⟩,nofun,removed ▸ failing⟩

theorem prepare_cases {force : Bool} (ran : outcome (prepareOutput path force) w = (r,after)) :
    Prepared path force w r after := by
  unfold prepareOutput at ran
  rw [outcome_bind,outcome_lift,run_exists] at ran
  cases present : (w.tree.kind? path).isSome with
  | false =>
    rw [present] at ran
    obtain ⟨kept,preparing⟩ := makeOutput_cases ran
    have absent : w.tree.kind? path = none := by simpa using present
    rw [SameFiles,← vacated_absent absent] at kept
    have free : w.tree.kind? path ≠ some .file := fun file => by simp [file] at present
    cases r with
    | error why => exact .failed (by simp [present]) (preparing why rfl) kept
    | ok => exact .done (by simp [present]) free kept
  | true =>
    rw [present] at ran
    cases force with
    | false =>
      cases ran
      exact .refused present rfl
    | true =>
      rcases outcome_bind_cases ran with ⟨why,removed,rfl⟩ | ⟨_,emptied,removed,made⟩
      · obtain ⟨left,_,preparing⟩ := remove_cases present removed
        exact .failed (fun _ => rfl) (preparing why rfl) left
      · obtain ⟨left,free,_⟩ := remove_cases present removed
        obtain ⟨kept,preparing⟩ := makeOutput_cases made
        cases r with
        | error why => exact .failed (fun _ => rfl) (preparing why rfl) (left.then kept)
        | ok => exact .done (fun _ => rfl) (free rfl) (left.then kept)

end Preparation

section Writing

open FlowClient.Path (join)

/-- Files can be written below this path where these files are there: it can be given to the system, and no
file is at it. -/
structure FileTree.Admits (t : FileTree) (path : String) (view : Trail → Option String) : Prop where
  free : view (t.place path) = none
  usable : path ≠ "" → Usable path

/-- Ways in which files come to be written below a path where these files are there before. -/
inductive Wrote (w : World) (base : String) (view : Trail → Option String) (files : List File) :
    Except Failure Unit → World → Prop
  | all {after : World} (admits : files ≠ [] → w.tree.Admits base view)
    (left : Shows w (written (w.tree.place base) files view) after) : Wrote w base view files (.ok ()) after
  | part {why : Failure} {after : World} {done rest : List File} (writing : why.Writing)
    (parts : files = done ++ rest) (unfinished : rest ≠ []) (admits : done ≠ [] → w.tree.Admits base view)
    (left : Shows w (written (w.tree.place base) done view) after) : Wrote w base view files (.error why) after

variable {base : String} {w before after : World} {view : Trail → Option String} {r : Except Failure Unit}

theorem Wrote.beginning {files : List File} (wrote : Wrote w base view files r after) :
    ∃ done rest, files = done ++ rest ∧ (done ≠ [] → w.tree.Admits base view) ∧
      Shows w (written (w.tree.place base) done view) after := by
  cases wrote with
  | all admits left => exact ⟨files,[],by simp,admits,left⟩
  | part _ parts _ admits left => exact ⟨_,_,parts,admits,left⟩

theorem Wrote.cons {f : File} {files : List File} (admits : w.tree.Admits base view)
    (wrote : Wrote w base (written (w.tree.place base) [f] view) files r after) :
    Wrote w base view (f :: files) r after := by
  cases wrote with
  | all _ left => exact .all (fun _ => admits) left
  | @part _ _ done rest writing parts unfinished _ left =>
    have longer : f :: files = (f :: done) ++ rest := congrArg (f :: ·) parts
    exact .part writing longer unfinished (fun _ => admits) left

theorem write_cases {f : File} (leads : Path.back f.path = []) (left : Shows w view before)
    (ran : outcome (access (.notWritten (join base f.path)) (FileSystem.write (join base f.path) f.content))
      before = (r,after)) :
    (∃ why, r = .error why ∧ why.Writing ∧ Shows w view after) ∨
      r = .ok () ∧ w.tree.Admits base view ∧ Shows w (written (w.tree.place base) [f] view) after := by
  have run : (((World.update (·.write (join base f.path) f.content)).run before).1.mapError
      (.notWritten (join base f.path)),
    ((World.update (·.write (join base f.path) f.content)).run before).2) = (r,after) := ran
  obtain ⟨why,_,failed⟩ | ⟨tree,wrote,done⟩ := update_cases (·.write (join base f.path) f.content) before
  · rw [failed] at run
    cases run
    exact .inl ⟨_,rfl,.file _ why,left⟩
  · rw [done] at run
    cases run
    obtain ⟨trail,found,inner,rfl⟩ := FileTree.write_ok wrote
    obtain ⟨rfl,directory,usable⟩ := FileTree.locate_join leads found
    rw [← left.files,← left.place]
    refine .inr ⟨rfl,⟨?_,usable⟩,left.start,FileTree.file?_insert_file before.tree inner f.content⟩
    rw [← left.place]
    exact FileTree.file?_of_directory directory

theorem writeFile_cases {f : File} (leads : Path.back f.path = []) (left : Shows w view before)
    (ran : outcome (writeFile base f) before = (r,after)) :
    (∃ why, r = .error why ∧ why.Writing ∧ Shows w view after) ∨
      r = .ok () ∧ w.tree.Admits base view ∧ Shows w (written (w.tree.place base) [f] view) after := by
  unfold writeFile at ran
  cases above : Path.parent? (join base f.path) with
  | none =>
    simp only [above] at ran
    exact write_cases leads left ran
  | some parent =>
    simp only [above] at ran
    rcases outcome_bind_cases ran with ⟨why,failed,rfl⟩ | ⟨_,between,made,wrote⟩
    · obtain ⟨e,rfl⟩ := access_error failed
      exact .inl ⟨_,rfl,.directory parent e,left.then (access_keeps (keeps_makeDirectories parent) failed)⟩
    · exact write_cases leads (left.then (access_keeps (keeps_makeDirectories parent) made)) wrote

theorem writeFiles_cases {files : List File} (leads : ∀ f ∈ files, Path.back f.path = [])
    (left : Shows w view before) (ran : outcome (files.forM (writeFile base)) before = (r,after)) :
    Wrote w base view files r after := by
  induction files generalizing before view with
  | nil =>
    cases ran
    exact .all nofun left
  | cons f files ih =>
    obtain ⟨here,others⟩ := List.forall_mem_cons.mp leads
    have steps : outcome (writeFile base f >>= fun _ => files.forM (writeFile base)) before = (r,after) := ran
    rcases outcome_bind_cases steps with ⟨why,failed,rfl⟩ | ⟨_,between,wrote,later⟩
    · rcases writeFile_cases here left failed with ⟨_,same,writing,kept⟩ | ⟨done,_⟩
      · cases same
        exact .part writing (List.nil_append _).symm (List.cons_ne_nil _ _) nofun kept
      · cases done
    · rcases writeFile_cases here left wrote with ⟨_,failed,_⟩ | ⟨_,admits,next⟩
      · cases failed
      · exact .cons admits (ih others next later)

end Writing

section Generate

/-- Ways in which a generation by a plan goes. -/
inductive Generated (p : Plan) (w : World) : Except Failure Unit → World → Prop
  | unprepared {why : Failure} {after : World}
    (failed : Prepared p.output p.config.force w (.error why) after) : Generated p w (.error why) after
  | prepared {r : Except Failure Unit} {between after : World}
    (ready : Prepared p.output p.config.force w (.ok ()) between)
    (wrote : Wrote w p.output (w.tree.vacated p.output) p.files r after) : Generated p w r after

variable {w after : World} {flags : GenerateFlags} {r : Except Failure Unit}

theorem back_module {directory : String} (home : Path.Plain directory) (leads : Path.isBack directory = false)
    (name : String) : Path.back (directory ++ "/" ++ name ++ ".js") = [] := by
  rw [String.append_assoc,Path.back,Path.names_below home,List.takeWhile_cons_of_neg (by simp [leads])]

theorem files_lead {c : Client} {options : Option ManifestOptions} :
    ∀ f ∈ c.files options, Path.back f.path = [] := by
  intro f member
  rcases mem_files member with fixed | ⟨declaration,_,rfl⟩ | ⟨request,_,rfl⟩
  · have each : ∀ path ∈ fixedPaths, Path.back path = [] := by decide
    exact each f.path fixed
  · rw [declarationFile_path]
    exact back_module (by decide) (by decide) _
  · rw [requestFile_path]
    exact back_module (by decide) (by decide) _

def produce (p : Plan) : CommandT (StateM World) Unit := do
  prepareOutput p.output p.config.force
  p.files.forM (writeFile p.output)
  Command.note ("Generated " ++ toString p.files.length ++ " files for " ++
    toString p.client.requests.length ++ " operations in " ++ p.output)
  if !p.client.warnings.isEmpty then
    Command.note (toString p.client.warnings.length ++ " warnings, see the log above")

/-- A generation is its plan and what is done by it; the plan alone changes nothing. -/
theorem generate_planned (flags : GenerateFlags) (w : World) :
    outcome (generate flags) w = match w.plan flags with
      | .error why => (.error why,w)
      | .ok p => outcome (produce p) w := by
  unfold generate Command.loadClient World.plan
  rw [outcome_bind,outcome_access,load_run]
  cases w.config? with
  | error why => rfl
  | ok found =>
    dsimp only [Except.mapError]
    rw [outcome_bind,outcome_bind,readDocument_outcome]
    dsimp only [bind,Except.bind]
    cases w.document (flags.apply (found.getD {})).input with
    | error why => rfl
    | ok document =>
      dsimp only
      cases document.client (flags.apply (found.getD {})).overrides with
      | error why => rfl
      | ok client => rfl

theorem files_ne_nil (p : Plan) : p.files ≠ [] := by
  intro none
  have index : p.client.index ∈ p.files := index_member _
  rw [none] at index
  cases index

theorem notes_cases {first second : String} {more : Bool} (ran : outcome (do
    Command.note first
    if more then Command.note second) w = (r,after)) : r = .ok () ∧ SameFiles w after := by
  cases more <;> cases ran <;> exact ⟨rfl,rfl,rfl⟩

theorem produce_cases {p : Plan} (ran : outcome (produce p) w = (r,after)) : Generated p w r after := by
  unfold produce at ran
  rcases outcome_bind_cases ran with ⟨why,failed,rfl⟩ | ⟨_,between,prepared,later⟩
  · exact .unprepared (prepare_cases failed)
  have ready := prepare_cases prepared
  have left : Shows w (w.tree.vacated p.output) between := by
    cases ready
    assumption
  rcases outcome_bind_cases later with ⟨why,failed,rfl⟩ | ⟨_,full,wrote,noted⟩
  · exact .prepared ready (writeFiles_cases files_lead left failed)
  · obtain ⟨rfl,kept⟩ := notes_cases noted
    cases writeFiles_cases files_lead left wrote with
    | all admits shows => exact .prepared ready (.all admits (shows.then kept))

/-- The exit code tells whether a generation failed, and the report of a failure changes no file. -/
theorem run_generate {arguments : List String} {flags : GenerateFlags}
    (asked : Invocation.ofArguments? arguments = some (.generate flags)) (w : World) :
    (Command.run arguments : StateM World Nat).run w = match outcome (generate flags) w with
      | (.ok (),after) => (0,after)
      | (.error why,after) => (1,{ after with noted := after.noted ++ why.report }) := by
  unfold Command.run
  rw [asked]
  dsimp only
  rw [run_bind]
  have performed : (Command.perform (.generate flags) : CommandT (StateM World) Unit).run.run w =
    outcome (generate flags) w := rfl
  rw [performed]
  rcases outcome (generate flags) w with ⟨why | _,after⟩ <;> rfl

end Generate

end FlowClient
