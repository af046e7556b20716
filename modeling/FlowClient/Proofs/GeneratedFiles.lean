import FlowClient.Proofs.Generation

/-! Files after a generation. Without force those that are there are kept, but for those at which a generated file
is placed; where it succeeds, the files of the package are in place and others below the output directory are gone
as far as that directory was seen. -/

namespace FlowClient

open FileTree (Direct Usable cleared)
open FlowClient.Path (Plain land)
open Command (generate)

section Kept

variable {w after : World} {flags : GenerateFlags} {p : Plan} {r : Except Failure Unit}

theorem plan_careful (planned : w.plan flags = .ok p) (unforced : flags.force = false)
    (careful : ∀ c, w.config? = .ok (some c) → c.force = false) : p.config.force = false := by
  obtain ⟨found,loaded,config,_⟩ := plan_ok planned
  rw [config,GenerateFlags.apply,unforced,Bool.or_false]
  cases found with
  | none => rfl
  | some c => exact careful c loaded

/-- Where nothing may be removed, files are written only below a path at which nothing was. -/
theorem careful_files (careful : p.config.force = false) (generated : Generated p w r after) :
    ∃ done, (∀ f ∈ done, f ∈ p.files) ∧
      after.tree.file? = written (w.tree.place p.output) done w.tree.file? ∧
      (done ≠ [] → w.tree.kind? p.output = none ∧ w.tree.Admits p.output w.tree.file?) := by
  cases generated with
  | unprepared failed =>
    refine ⟨[],by simp,?_,fun some => absurd rfl some⟩
    cases failed with
    | refused => rfl
    | failed guarded _ left =>
      rw [left.files,vacated_absent (absent_careful guarded careful)]
      rfl
  | prepared ready wrote =>
    cases ready with
    | done guarded _ _ =>
      have absent := absent_careful guarded careful
      rw [vacated_absent absent] at wrote
      obtain ⟨done,rest,parts,admits,left⟩ := wrote.beginning
      refine ⟨done,fun f member => ?_,left.files,fun some => ⟨absent,admits some⟩⟩
      rw [parts]
      exact List.mem_append_left _ member

/-- Where every definition stays in a package that is written to a new directory, each file of it is new. -/
theorem package_new {f : File} (planned : w.plan flags = .ok p) (sound : w.tree.Sound) (filled : p.output ≠ "")
    (direct : Direct p.output) (contained : ∀ name ∈ p.document.definitions.names, Contained name)
    (absent : w.tree.kind? p.output = none) (admits : w.tree.Admits p.output w.tree.file?)
    (member : f ∈ p.files) : w.tree.file? (land (w.tree.place p.output) f.path) = none := by
  obtain ⟨_,_,_,_,accepted⟩ := plan_ok planned
  obtain ⟨_,made⟩ := client_made accepted
  have below : w.tree.place p.output <+: land (w.tree.place p.output) f.path :=
    (files_stay_iff made (some p.config.package)).mpr contained f member _
  rw [FileTree.file?,sound.free_below (admits.usable filled) direct absent admits.free below]

/-- Without force a file that was there is kept, or a generated one is placed where it was. Where the output is
named directly and every definition stays in it, all files that were there are kept. -/
theorem existing_kept (ran : outcome (generate flags) w = (r,after)) (unforced : flags.force = false)
    (careful : ∀ c, w.config? = .ok (some c) → c.force = false) :
    (∀ trail content, w.tree.file? trail = some content → after.tree.file? trail = some content ∨
      ∃ p, w.plan flags = .ok p ∧ ∃ f ∈ p.files, land (w.tree.place p.output) f.path = trail ∧
        after.tree.file? trail = some f.content) ∧
    (w.tree.Sound → (∀ p, w.plan flags = .ok p → p.output ≠ "" ∧ Direct p.output ∧
        ∀ name ∈ p.document.definitions.names, Contained name) →
      ∀ trail content, w.tree.file? trail = some content → after.tree.file? trail = some content) := by
  rw [generate_planned] at ran
  cases planned : w.plan flags with
  | error why =>
    rw [planned] at ran
    cases ran
    exact ⟨fun _ _ there => .inl there,fun _ _ _ _ there => there⟩
  | ok p =>
    rw [planned] at ran
    obtain ⟨done,members,files,placed⟩ :=
      careful_files (plan_careful planned unforced careful) (produce_cases ran)
    rw [files]
    constructor
    · intro trail content there
      rcases written_cases (w.tree.place p.output) done w.tree.file? trail with
        ⟨_,kept⟩ | ⟨f,member,landed,replaced⟩
      · exact .inl (kept.trans there)
      · exact .inr ⟨p,rfl,f,members f member,landed,replaced⟩
    · intro sound conditions trail content there
      obtain ⟨filled,direct,contained⟩ := conditions p rfl
      rcases written_cases (w.tree.place p.output) done w.tree.file? trail with
        ⟨_,kept⟩ | ⟨f,member,rfl,_⟩
      · exact kept.trans there
      · obtain ⟨absent,admits⟩ := placed (List.ne_nil_of_mem member)
        rw [package_new planned sound filled direct contained absent admits (members f member)] at there
        cases there

def petText : String :=
  "\x7b\"swagger\":\"2.0\",\"info\":\x7b\"title\":\"Pets\",\"version\":\"1\"\x7d," ++
  "\"paths\":\x7b\x7d,\"definitions\":\x7b\"Pet\":\x7b\x7d\x7d\x7d"

def petWorld : World where
  tree := {
    entries := [(["work"],.directory), (["work","api.json"],.file petText),
      (["work","index.js"],.file "mine\n")]
    start := ["work"] }

def petFlags : GenerateFlags := { input := some "api.json", output := some "out" }

theorem pet_run : ∃ after, outcome (generate petFlags) petWorld = (.ok (),after) := by
  have ran : (outcome (generate petFlags) petWorld).1 = .ok () := by decide +kernel
  obtain ⟨after,same,_⟩ := exists_after (P := fun _ => True) ⟨ran,trivial⟩
  exact ⟨after,same⟩

theorem pet_plan {p : Plan} (planned : petWorld.plan petFlags = .ok p) : p.output = "out" ∧
    p.document.definitions.names ++ p.document.identifiers = ["Pet"] := by
  have found : (petWorld.plan petFlags).toOption.map (fun p =>
      (p.output,p.document.definitions.names ++ p.document.identifiers)) = some ("out",["Pet"]) := by
    decide +kernel
  rw [planned] at found
  simpa [Except.toOption] using found

theorem petWorld_sound : petWorld.tree.Sound := .of_entries (by decide) (by decide)

theorem existing_kept_pets : ∃ after, outcome (generate petFlags) petWorld = (.ok (),after) ∧
    after.tree.file? ["work","index.js"] = some "mine\n" := by
  obtain ⟨after,ran⟩ := pet_run
  have unset : petWorld.config? = .ok none := by decide +kernel
  have careful : ∀ c, petWorld.config? = .ok (some c) → c.force = false := by
    intro c set
    rw [unset] at set
    cases set
  refine ⟨after,ran,(existing_kept ran rfl careful).2 petWorld_sound ?_ _ _ (by decide +kernel)⟩
  intro p planned
  obtain ⟨output,names⟩ := pet_plan planned
  have contained : ∀ name ∈ ["Pet"], Contained name := by decide +kernel
  rw [output]
  refine ⟨by decide,by decide +kernel,fun name member => contained name ?_⟩
  rw [← names]
  exact List.mem_append_left _ member

/-- A document whose definition is called by the path of a file beside the package. -/
def indexText : String :=
  "\x7b\"swagger\":\"2.0\",\"info\":\x7b\"title\":\"Stray\",\"version\":\"1\"\x7d," ++
  "\"paths\":\x7b\x7d,\"definitions\":\x7b\"../../index\":\x7b\x7d\x7d\x7d"

def indexWorld : World where
  tree := {
    entries := [(["work"],.directory), (["work","api.json"],.file indexText),
      (["work","index.js"],.file "mine\n")]
    start := ["work"] }

/-- The run succeeds without force, and the file beside the package is replaced. -/
theorem stray_definition_replaces : petFlags.force = false ∧ indexWorld.config? = .ok none ∧
    indexWorld.tree.file? ["work","index.js"] = some "mine\n" ∧
    ∃ after, outcome (generate petFlags) indexWorld = (.ok (),after) ∧
      after.tree.file? ["work","index.js"] = some "// @flow\n\nexport type ../../index = any;\n" := by
  refine ⟨rfl,by decide +kernel,by decide +kernel,?_⟩
  apply exists_after
  decide +kernel

end Kept

section Package

theorem file_place {c : Client} (named : c.Named) {options : Option ManifestOptions} {f : File}
    (member : f ∈ c.files options) (out : Trail) : land out f.path = out ++ f.trail := by
  rcases mem_files member with fixed | ⟨declaration,inside,rfl⟩ | ⟨request,inside,rfl⟩
  · have each : ∀ path ∈ fixedPaths, Path.within? [] (Path.names path) = some (Path.names path) := by
      decide +kernel
    exact Path.land_within (each f.path fixed) out
  · rw [declaration_trail named inside]
    exact (declaration_place_iff declaration).mpr (named.plainDeclarations declaration inside) out
  · rw [request_trail named inside]
    exact (request_place_iff request).mpr (named.plainRequests request inside) out

section Written

variable {c : Client} (named : c.Named) (options : Option ManifestOptions) (out : Trail)
  (view : Trail → Option String)

include named

theorem package_at {f : File} (member : f ∈ c.files options) :
    written out (c.files options) view (out ++ f.trail) = some f.content := by
  rcases written_cases out (c.files options) view (out ++ f.trail) with ⟨apart,_⟩ | ⟨g,other,landed,content⟩
  · exact absurd (file_place named member out) (apart f member)
  · rw [file_place named other] at landed
    have same := List.inj_on_of_nodup_map (files_apart named options) other member
      (List.append_cancel_left landed)
    rw [content,same]

theorem package_elsewhere {trail : Trail} (apart : ∀ f ∈ c.files options, trail ≠ out ++ f.trail) :
    written out (c.files options) view trail = view trail := by
  rcases written_cases out (c.files options) view trail with ⟨_,kept⟩ | ⟨f,member,landed,_⟩
  · exact kept
  · rw [file_place named member] at landed
    exact absurd landed.symm (apart f member)

end Written

theorem vacated_outside {t : FileTree} {path : String} {trail : Trail} (outside : ¬ t.place path <+: trail) :
    t.vacated path trail = t.file? trail := by
  rw [FileTree.vacated]
  split
  · rw [cleared,if_neg outside]
  · rfl

/-- Nothing is left below the output where it was seen as a directory or named directly. -/
theorem vacated_below {t : FileTree} {path : String} (free : t.kind? path ≠ some .file)
    (admits : t.Admits path (t.vacated path))
    (seen : t.kind? path = some .directory ∨ t.Sound ∧ path ≠ "" ∧ Direct path) {trail : Trail}
    (below : t.place path <+: trail) : t.vacated path trail = none := by
  rcases seen with directory | ⟨sound,named,direct⟩
  · rw [FileTree.vacated,if_pos directory,cleared,if_pos below]
  · cases there : t.kind? path with
    | none =>
      rw [vacated_absent there] at admits ⊢
      rw [FileTree.file?,sound.free_below (admits.usable named) direct there admits.free below]
    | some kind =>
      cases kind with
      | directory => rw [FileTree.vacated,if_pos there,cleared,if_pos below]
      | file => exact absurd there free

variable {w after : World} {flags : GenerateFlags}

theorem plan_named {p : Plan} (planned : w.plan flags = .ok p)
    (plain : ∀ name ∈ p.document.definitions.names ++ p.document.identifiers, Plain name) : p.client.Named := by
  obtain ⟨_,_,_,read,accepted⟩ := plan_ok planned
  obtain ⟨_,made⟩ := client_made accepted
  exact client_named made (document_keyed read) plain

theorem generate_complete (ran : outcome (generate flags) w = (.ok (),after)) : ∃ p, w.plan flags = .ok p ∧
    w.tree.kind? p.output ≠ some .file ∧ w.tree.Admits p.output (w.tree.vacated p.output) ∧
      after.tree.file? = written (w.tree.place p.output) p.files (w.tree.vacated p.output) := by
  rw [generate_planned] at ran
  cases planned : w.plan flags with
  | error why =>
    rw [planned] at ran
    cases ran
  | ok p =>
    rw [planned] at ran
    cases produce_cases ran with
    | prepared ready wrote =>
      cases ready with
      | done _ free _ =>
        cases wrote with
        | all admits left => exact ⟨p,rfl,free,admits (files_ne_nil p),left.files⟩

/-- Where a generation succeeds and no name holds a slash, all generated files are in place, all files outside the
output directory are as before, and there are no others in it as long as it was seen as a directory or is named
directly. -/
theorem package_written (ran : outcome (generate flags) w = (.ok (),after)) : ∃ p, w.plan flags = .ok p ∧
    ((∀ name ∈ p.document.definitions.names ++ p.document.identifiers, Plain name) →
      (∀ f ∈ p.files, after.tree.file? (w.tree.place p.output ++ f.trail) = some f.content) ∧
      (∀ trail, ¬ w.tree.place p.output <+: trail → after.tree.file? trail = w.tree.file? trail) ∧
      (∀ trail, (∀ f ∈ p.files, trail ≠ w.tree.place p.output ++ f.trail) →
        after.tree.file? trail = w.tree.vacated p.output trail) ∧
      (w.tree.kind? p.output = some .directory ∨ w.tree.Sound ∧ p.output ≠ "" ∧ Direct p.output →
        ∀ trail content, w.tree.place p.output <+: trail → after.tree.file? trail = some content →
          ∃ f ∈ p.files, trail = w.tree.place p.output ++ f.trail)) := by
  obtain ⟨p,planned,free,admits,files⟩ := generate_complete ran
  refine ⟨p,planned,fun plain => ?_⟩
  have named := plan_named planned plain
  rw [files]
  refine ⟨fun f member => package_at named _ _ _ member,?_,
    fun trail apart => package_elsewhere named _ _ _ apart,?_⟩
  · intro trail outside
    refine (package_elsewhere named _ _ _ ?_).trans (vacated_outside outside)
    rintro f _ rfl
    exact outside (List.prefix_append _ _)
  · intro seen trail content below found
    by_contra none
    have apart : ∀ f ∈ p.files, trail ≠ w.tree.place p.output ++ f.trail :=
      fun f member same => none ⟨f,member,same⟩
    have gone := (package_elsewhere named _ _ _ apart).trans (vacated_below free admits seen below)
    rw [Plan.files,gone] at found
    cases found

theorem package_written_pets : ∃ after, outcome (generate petFlags) petWorld = (.ok (),after) ∧
    ∃ p, petWorld.plan petFlags = .ok p ∧
      (∀ f ∈ p.files, after.tree.file? (["work","out"] ++ f.trail) = some f.content) ∧
      (∀ trail content, ["work","out"] <+: trail → after.tree.file? trail = some content →
        ∃ f ∈ p.files, trail = ["work","out"] ++ f.trail) := by
  obtain ⟨after,ran⟩ := pet_run
  obtain ⟨p,planned,written⟩ := package_written ran
  obtain ⟨output,names⟩ := pet_plan planned
  have plain : ∀ name ∈ ["Pet"], Plain name := by decide
  have place : petWorld.tree.place "out" = ["work","out"] := by decide +kernel
  have direct : Direct "out" := by decide +kernel
  rw [names,output,place] at written
  obtain ⟨inPlace,_,_,others⟩ := written plain
  exact ⟨after,ran,p,planned,inPlace,others (.inr ⟨petWorld_sound,by decide,direct⟩)⟩

/-- The output is the start, by way of a directory that is not there yet. -/
def backFlags : GenerateFlags := { input := some "api.json", output := some "new/.." }

/-- The run succeeds, and the document is left in the output directory. -/
theorem document_left_in_output : ∃ after p, outcome (generate backFlags) petWorld = (.ok (),after) ∧
    petWorld.plan backFlags = .ok p ∧
    (∀ name ∈ p.document.definitions.names ++ p.document.identifiers, Plain name) ∧
    petWorld.tree.place p.output = ["work"] ∧
    after.tree.file? ["work","api.json"] = some petText ∧
      ∀ f ∈ p.files, ["work"] ++ f.trail ≠ ["work","api.json"] := by
  have found : (petWorld.plan backFlags).toOption.map (fun p => (p.output,
      p.document.definitions.names ++ p.document.identifiers,p.files.map File.trail)) = some ("new/..",["Pet"],
        [["helpers","AjaxPipe.js"],["helpers","makeQuery.js"],["helpers","makeFormData.js"],
          ["types","AjaxObject.js"],["types","Pet.js"],["index.js"],["package.json"]]) := by decide +kernel
  obtain ⟨p,planned,parts⟩ := Option.map_eq_some_iff.mp found
  obtain ⟨output,rest⟩ := Prod.mk.inj parts
  obtain ⟨names,trails⟩ := Prod.mk.inj rest
  have run : ∃ after, outcome (generate backFlags) petWorld = (.ok (),after) ∧
      after.tree.file? ["work","api.json"] = some petText := by
    apply exists_after
    decide +kernel
  obtain ⟨after,ran,kept⟩ := run
  refine ⟨after,p,ran,toOption_eq_some.mp planned,?_,?_,kept,?_⟩
  · rw [names]
    decide
  · rw [output]
    decide +kernel
  · intro f member same
    have trail : f.trail = ["api.json"] := (List.cons.inj same).2
    have listed := List.mem_map_of_mem (f := File.trail) member
    rw [trails,trail] at listed
    revert listed
    decide

end Package

end FlowClient
