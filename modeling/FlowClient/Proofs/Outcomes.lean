import FlowClient.Command.Run
import FlowClient.Proofs.TreePlaces

/-! Outcomes of actions on a tree of files: what they give, and which files they leave. Actions that look or make
directories leave all of them. -/

namespace FlowClient

open Command (access readDocument)

/-- What an action gives in a world, and the world after it. -/
def outcome {α : Type} (x : CommandT (StateM World) α) (w : World) : Except Failure α × World :=
  x.run.run w

section Actions

variable {α β : Type} (w : World)

theorem outcome_bind (x : CommandT (StateM World) α) (f : α → CommandT (StateM World) β) :
    outcome (x >>= f) w = match outcome x w with
      | (.ok a,after) => outcome (f a) after
      | (.error why,after) => (.error why,after) := by
  change (ExceptT.bindCont f (x.run.run w).1 : StateM World (Except Failure β)).run (x.run.run w).2 = _
  unfold outcome
  rcases x.run.run w with ⟨r,after⟩
  cases r <;> rfl

theorem outcome_access {ε : Type} (failure : ε → Failure) (x : StateM World (Except ε α)) :
    outcome (access failure x) w = ((x.run w).1.mapError failure,(x.run w).2) := rfl

theorem outcome_lift (x : StateM World α) :
    outcome (ExceptT.lift x) w = (.ok (x.run w).1,(x.run w).2) := rfl

theorem exists_after {r : α} {run : α × World} {P : World → Prop} (ran : run.1 = r ∧ P run.2) :
    ∃ after, run = (r,after) ∧ P after :=
  ⟨run.2,by rw [← ran.1],ran.2⟩

variable {w}

theorem outcome_bind_cases {x : CommandT (StateM World) α} {f : α → CommandT (StateM World) β}
    {r : Except Failure β} {after : World} (ran : outcome (x >>= f) w = (r,after)) :
    (∃ why, outcome x w = (.error why,after) ∧ r = .error why) ∨
      ∃ a between, outcome x w = (.ok a,between) ∧ outcome (f a) between = (r,after) := by
  rw [outcome_bind] at ran
  split at ran
  · rename_i a between first
    exact .inr ⟨a,between,first,ran⟩
  · rename_i why between first
    cases ran
    exact .inl ⟨why,first,rfl⟩

theorem run_bind (x : StateM World α) (f : α → StateM World β) :
    (x >>= f).run w = (f (x.run w).1).run (x.run w).2 := rfl

/-- An access leaves the tree alone where it fails, and makes its change where it does not. -/
theorem update_cases (change : FileTree → Except FileError FileTree) (w : World) :
    (∃ why, change w.tree = .error why ∧ (World.update change).run w = (.error why,w)) ∨
      ∃ tree, change w.tree = .ok tree ∧ (World.update change).run w = (.ok (),{ w with tree }) := by
  have looked : (get : StateM World World).run w = (w,w) := rfl
  unfold World.update
  rw [run_bind,looked]
  dsimp only
  cases changed : change w.tree with
  | error why => exact .inl ⟨why,rfl,rfl⟩
  | ok tree => exact .inr ⟨tree,rfl,rfl⟩

end Actions

section Kept

/-- After the world this one starts where it does, and these are the files in it. -/
structure Shows (before : World) (view : Trail → Option String) (after : World) : Prop where
  start : after.tree.start = before.tree.start
  files : after.tree.file? = view

theorem Shows.place {before after : World} {view : Trail → Option String} (left : Shows before view after)
    (path : String) : after.tree.place path = before.tree.place path := by
  rw [FileTree.place,FileTree.place,FileTree.origin,left.start]
  rfl

def SameFiles (before after : World) : Prop := Shows before before.tree.file? after

theorem SameFiles.refl (w : World) : SameFiles w w := ⟨rfl,rfl⟩

theorem SameFiles.trans {first second third : World} (one : SameFiles first second)
    (two : SameFiles second third) : SameFiles first third :=
  ⟨two.start.trans one.start,two.files.trans one.files⟩

theorem Shows.then {before between after : World} {view : Trail → Option String}
    (one : Shows before view between) (two : SameFiles between after) : Shows before view after :=
  ⟨two.start.trans one.start,two.files.trans one.files⟩

/-- The action leaves the start and the files as they were. -/
def Keeps {α : Type} (x : StateM World α) : Prop := ∀ w, SameFiles w (x.run w).2

theorem Keeps.pure {α : Type} (a : α) : Keeps (Pure.pure a) := SameFiles.refl

theorem Keeps.bind {α β : Type} {x : StateM World α} {f : α → StateM World β} (first : Keeps x)
    (second : ∀ a, Keeps (f a)) : Keeps (x >>= f) := fun w => (first w).trans (second _ _)

theorem keeps_isDirectory (path : String) : Keeps (FileSystem.isDirectory? path) := SameFiles.refl

theorem keeps_makeDirectory (path : String) : Keeps (FileSystem.makeDirectory path) := by
  intro w
  change SameFiles w ((World.update (·.makeDirectory path)).run w).2
  obtain ⟨why,_,run⟩ | ⟨tree,made,run⟩ := update_cases (·.makeDirectory path) w
  · rw [run]
    exact SameFiles.refl w
  · rw [run]
    obtain ⟨start,files⟩ := FileTree.makeDirectory_ok made
    exact ⟨start,files⟩

theorem keeps_orPresent (path : String) (result : Except FileError Unit) :
    Keeps (FileSystem.makeFirst.orPresent path result) := by
  cases result with
  | ok => exact Keeps.pure _
  | error why => exact (keeps_isDirectory path).bind fun _ => Keeps.pure _

theorem keeps_makeFirst (paths : List String) : Keeps (FileSystem.makeFirst paths) := by
  induction paths with
  | nil => exact Keeps.pure _
  | cons path around ih =>
    rw [FileSystem.makeFirst]
    split
    · exact Keeps.pure _
    · refine (keeps_makeDirectory path).bind fun made => ?_
      split
      · exact Keeps.pure _
      · refine ih.bind fun others => ?_
        split
        · exact Keeps.pure _
        · exact (keeps_makeDirectory path).bind fun _ => keeps_orPresent path _
      · exact keeps_orPresent path _

theorem keeps_makeDirectories (path : String) : Keeps (FileSystem.makeDirectories path) :=
  keeps_makeFirst _

theorem mapError_error {ε α : Type} {failure : ε → Failure} {x : Except ε α} {why : Failure}
    (failed : x.mapError failure = .error why) : ∃ e, why = failure e := by
  cases x with
  | ok => cases failed
  | error e => exact ⟨e,(Except.error.inj failed).symm⟩

theorem mapError_ok {ε α : Type} {failure : ε → Failure} {x : Except ε α} {a : α}
    (given : x.mapError failure = .ok a) : x = .ok a := by
  cases x with
  | error e => cases given
  | ok b => exact congrArg Except.ok (Except.ok.inj given)

theorem access_error {ε α : Type} {failure : ε → Failure} {x : StateM World (Except ε α)} {w after : World}
    {why : Failure} (ran : outcome (access failure x) w = (.error why,after)) : ∃ e, why = failure e :=
  mapError_error (congrArg Prod.fst ran)

theorem access_keeps {ε α : Type} {failure : ε → Failure} {x : StateM World (Except ε α)} (keeps : Keeps x)
    {w after : World} {r : Except Failure α} (ran : outcome (access failure x) w = (r,after)) :
    SameFiles w after := by
  rw [outcome_access] at ran
  obtain ⟨_,rfl⟩ := Prod.mk.inj ran
  exact keeps w

end Kept

section Looking

/-- The configuration that a world holds; none where nothing is there. -/
def World.config? (w : World) : Except ConfigError (Option Config) :=
  if (w.tree.kind? Config.fileName).isSome then
    match w.tree.read Config.fileName with
    | .error why => .error (.unreadable why)
    | .ok text => some <$> Config.ofText text
  else .ok none

def World.document (w : World) (path : String) : Except Failure Document :=
  match w.tree.read path with
  | .error why => .error (.unreadable path why)
  | .ok text =>
    let extension := (Path.extension? path).getD ""
    if extension == "json" then (Document.ofJsonText text).mapError .document
    else if extension == "yaml" || extension == "yml" then (Document.ofYamlText text).mapError .document
    else .error (.unknownFormat path)

theorem run_exists (path : String) (w : World) :
    (FileSystem.exists? path : StateM World Bool).run w = ((w.tree.kind? path).isSome,w) := rfl

theorem run_read (path : String) (w : World) :
    (FileSystem.read path : StateM World (Except FileError String)).run w = (w.tree.read path,w) := rfl

theorem load_run (w : World) :
    (Config.load Config.fileName : StateM World (Except ConfigError (Option Config))).run w =
      (w.config?,w) := by
  unfold Config.load World.config?
  rw [run_bind,run_exists]
  cases (w.tree.kind? Config.fileName).isSome with
  | false => rfl
  | true =>
    dsimp only
    rw [Bool.not_true,if_neg Bool.false_ne_true,run_bind,run_read,if_pos rfl]
    cases w.tree.read Config.fileName <;> rfl

theorem readDocument_outcome (path : String) (w : World) :
    outcome (readDocument path) w = (w.document path,w) := by
  unfold readDocument World.document
  rw [outcome_bind,outcome_access,run_read]
  cases w.tree.read path with
  | error why => rfl
  | ok text =>
    dsimp only [Except.mapError]
    split
    · rfl
    · split <;> rfl

theorem document_keyed {w : World} {path : String} {d : Document} (read : w.document path = .ok d) : d.Keyed := by
  unfold World.document at read
  split at read
  · cases read
  · rename_i text _
    dsimp only at read
    split at read
    · exact ofJsonText_keyed (mapError_ok read)
    · split at read
      · exact ofYamlText_keyed (mapError_ok read)
      · cases read

end Looking

end FlowClient
