import FlowClient.Proofs.ModuleGraph
import FlowClient.Proofs.Naming

/-! Places of files. Request functions stay in the directory of a package whatever they are called, and all files
do as long as no definition is called by a path that leads out of it. Every file has the place that the modules
call it by exactly where no name holds a slash. -/

namespace FlowClient

namespace Path

/-- The trail that a path leads to from the trail of a directory. -/
def land (out : List String) (path : String) : List String := (names path).foldl follow out

/-- The trail that names lead to within a directory, unless they lead out of it on the way. -/
def within? (trail : List String) : List String → Option (List String)
  | [] => some trail
  | name :: rest =>
    if name == ".." && trail.isEmpty then none else within? (follow trail name) rest

section Follow

theorem follow_append (out : List String) {trail : List String} {name : String}
    (inside : ¬ (name == ".." && trail.isEmpty) = true) :
    follow (out ++ trail) name = out ++ follow trail name := by
  unfold follow
  split
  · rfl
  · split
    · rename_i up
      have more : trail ≠ [] := by
        rintro rfl
        exact inside (by simp [up])
      exact List.dropLast_append_of_ne_nil more
    · exact List.append_assoc _ _ _

theorem mem_follow {trail : List String} {name other : String} (member : other ∈ follow trail name) :
    other ∈ trail ∨ other = name := by
  unfold follow at member
  split at member
  · exact .inl member
  · split at member
    · exact .inl ((List.dropLast_sublist trail).subset member)
    · simpa using member

theorem mem_foldl_follow {trail names : List String} {other : String}
    (member : other ∈ names.foldl follow trail) : other ∈ trail ∨ other ∈ names := by
  induction names generalizing trail with
  | nil => exact .inl member
  | cons name rest ih =>
    rcases ih member with here | later
    · rcases mem_follow here with before | rfl
      · exact .inl before
      · exact .inr (by simp)
    · exact .inr (by simp [later])

theorem foldl_within (out : List String) {trail names there : List String}
    (inside : within? trail names = some there) : names.foldl follow (out ++ trail) = out ++ there := by
  induction names generalizing trail with
  | nil =>
    cases inside
    rfl
  | cons name rest ih =>
    rw [within?] at inside
    split at inside
    · cases inside
    · rename_i here
      rw [List.foldl_cons,follow_append out here]
      exact ih inside

theorem foldl_outside {trail names : List String} {fresh : String} (absent : fresh ∉ names)
    (outside : within? trail names = none) : ¬ [fresh] <+: names.foldl follow (fresh :: trail) := by
  induction names generalizing trail with
  | nil => cases outside
  | cons name rest ih =>
    obtain ⟨_,later⟩ := not_or.mp fun either => absent (List.mem_cons.mpr either)
    rw [within?] at outside
    rw [List.foldl_cons]
    split at outside
    · rename_i up
      obtain ⟨rfl,rfl⟩ : name = ".." ∧ trail = [] := by simpa using up
      have start : follow [fresh] ".." = [] := rfl
      rw [start]
      -- Once left, the directory is not come back to: none of the names calls it.
      rintro ⟨more,same⟩
      have back : fresh ∈ rest.foldl follow [] := by simp [← same]
      exact (mem_foldl_follow back).elim (fun none => by cases none) later
    · rename_i here
      have next := follow_append [fresh] here
      rw [List.singleton_append,List.singleton_append] at next
      rw [next]
      exact ih later outside

/-- A path stays in every directory that it starts from exactly where it leads to a trail within. -/
theorem stays_iff (path : String) : (∀ out, out <+: land out path) ↔
    ∃ there, within? [] (names path) = some there := by
  constructor
  · intro stays
    by_contra none
    have outside := Option.eq_none_iff_forall_ne_some.mpr fun there found => none ⟨there,found⟩
    exact foldl_outside (freshName_not_mem (names path) "out") outside (stays _)
  · rintro ⟨there,inside⟩ out
    have landed := foldl_within out inside
    rw [List.append_nil] at landed
    exact ⟨there,landed.symm⟩

theorem land_within {path : String} {there : List String}
    (inside : within? [] (names path) = some there) (out : List String) :
    land out path = out ++ there := by
  have landed := foldl_within out inside
  rwa [List.append_nil] at landed

theorem within?_forward {trail names : List String} (forward : ".." ∉ names) :
    ∃ rest, within? trail names = some (trail ++ rest) := by
  induction names generalizing trail with
  | nil => exact ⟨[],by simp [within?]⟩
  | cons name names ih =>
    obtain ⟨apart,later⟩ := not_or.mp fun either => forward (List.mem_cons.mpr either)
    have on : (name == "..") = false := beq_eq_false_iff_ne.mpr (Ne.symm apart)
    obtain ⟨first,same⟩ : ∃ first, follow trail name = trail ++ first := by
      unfold follow
      split
      · exact ⟨[],by simp⟩
      · exact ⟨[name],by simp [on]⟩
    obtain ⟨rest,found⟩ : ∃ rest, within? (follow trail name) names = some (follow trail name ++ rest) :=
      ih later
    refine ⟨first ++ rest,?_⟩
    rw [within?,on,Bool.false_and,if_neg Bool.false_ne_true,found,same,List.append_assoc]

end Follow

section Pieces

theorem splitSlashes_sublist {cs piece : List Char} (member : piece ∈ splitSlashes cs) :
    piece.Sublist cs ∧ '/' ∉ piece := by
  induction cs generalizing piece with
  | nil => simp_all [splitSlashes]
  | cons c rest ih =>
    rw [splitSlashes] at member
    split at member
    · rcases List.mem_cons.mp member with rfl | later
      · exact ⟨List.nil_sublist _,List.not_mem_nil⟩
      · exact ⟨(ih later).1.cons c,(ih later).2⟩
    · rename_i apart
      split at member
      · rw [List.mem_singleton.mp member]
        exact ⟨by simp,by simpa using Ne.symm apart⟩
      · rename_i first others pieces
        rw [pieces] at ih
        rcases List.mem_cons.mp member with rfl | later
        · have here := ih (List.mem_cons_self ..)
          exact ⟨here.1.cons_cons c,by simpa using ⟨Ne.symm apart,here.2⟩⟩
        · have here := ih (List.mem_cons_of_mem _ later)
          exact ⟨here.1.cons c,here.2⟩

theorem mem_names {path name : String} (member : name ∈ names path) :
    name.toList.Sublist path.toList ∧ Plain name := by
  obtain ⟨piece,found,rfl⟩ := List.mem_map.mp member
  rw [Plain,String.toList_ofList]
  exact splitSlashes_sublist found

theorem forward_of_count {path : String} (points : path.toList.count '.' ≤ 1) : ".." ∉ names path := by
  intro member
  have two := (mem_names member).1.count_le '.'
  have exact : "..".toList.count '.' = 2 := by decide
  omega

end Pieces

section Modules

variable (directory : String) (home : Plain directory) (leads : follow [] directory = [directory])

include home leads

theorem within?_module (name : String) : within? [] (names (directory ++ "/" ++ name ++ ".js")) =
    within? [directory] (names (name ++ ".js")) := by
  have on : (directory == "..") = false := by
    rw [beq_eq_false_iff_ne]
    rintro rfl
    cases leads
  rw [String.append_assoc,names_below home,within?,on,Bool.false_and,if_neg Bool.false_ne_true,leads]

theorem module_place_iff (name : String) :
    (∀ out, land out (directory ++ "/" ++ name ++ ".js") = out ++ [directory,name ++ ".js"]) ↔
      Plain name := by
  constructor
  · intro placed
    -- The whole name is one of the names that the path consists of, so it holds no slash.
    have member : name ++ ".js" ∈ land [] (directory ++ "/" ++ name ++ ".js") := by
      rw [placed []]
      simp
    have piece := (mem_names ((mem_foldl_follow member).resolve_left List.not_mem_nil)).2
    unfold Plain at piece ⊢
    rw [String.toList_append,List.mem_append] at piece
    exact fun slash => piece (.inl slash)
  · intro plain
    have inside : within? [] (names (directory ++ "/" ++ name ++ ".js")) =
        some [directory,name ++ ".js"] := by
      rw [within?_module directory home leads,names_plain (plain.append (by decide)),within?,List.isEmpty_cons,
        Bool.and_false,if_neg Bool.false_ne_true,follow_file,within?]
      rfl
    exact land_within inside

end Modules

end Path

open FlowClient.Path (Plain)

/-- A module called so in the directory of types leads to a trail within the package. -/
def Contained (name : String) : Prop :=
  (Path.within? ["types"] (Path.names (name ++ ".js"))).isSome = true

instance (name : String) : Decidable (Contained name) :=
  inferInstanceAs (Decidable ((Path.within? _ _).isSome = true))

theorem operationName_points (raw : String) : '.' ∉ (operationName raw).toList := by
  rw [operationName,String.toList_ofList]
  intro member
  obtain ⟨c,_,same⟩ := List.mem_map.mp member
  split at same
  · cases same
  · rename_i other
    exact other (by simp [same])

theorem identifier_points {d : Document} {id : String} (listed : id ∈ d.identifiers) :
    '.' ∉ id.toList := by
  obtain ⟨entry,_,inside⟩ := List.mem_flatMap.mp listed
  obtain ⟨op,_,rfl⟩ := List.mem_map.mp inside
  exact operationName_points _

theorem declaration_stays_iff (declaration : Declaration) :
    (∀ out, out <+: Path.land out declaration.file.path) ↔ Contained declaration.name := by
  rw [Path.stays_iff,declarationFile_path,Path.within?_module "types" (by decide) (by decide),Contained,
    Option.isSome_iff_exists]

theorem declaration_place_iff (declaration : Declaration) : (∀ out,
    Path.land out declaration.file.path = out ++ ["types",declaration.name ++ ".js"]) ↔
      Plain declaration.name := by
  rw [declarationFile_path]
  exact Path.module_place_iff "types" (by decide) (by decide) declaration.name

theorem request_place_iff (r : RequestFunction) :
    (∀ out, Path.land out r.file.path = out ++ ["src",r.name ++ ".js"]) ↔ Plain r.name := by
  rw [requestFile_path]
  exact Path.module_place_iff "src" (by decide) (by decide) r.name

theorem request_forward {r : RequestFunction} (points : '.' ∉ r.name.toList) :
    ∃ rest, Path.within? [] (Path.names r.file.path) = some ("src" :: rest) := by
  -- The only point is that of the ending, and it takes two to lead back.
  have single : (r.name ++ ".js").toList.count '.' ≤ 1 := by
    rw [String.toList_append,List.count_append,List.count_eq_zero_of_not_mem points]
    decide
  rw [requestFile_path,Path.within?_module "src" (by decide) (by decide)]
  exact Path.within?_forward (Path.forward_of_count single)

def fixedPaths : List String := runtimeFiles.map (·.path) ++ ["index.js","package.json"]

theorem fixed_stays {path : String} (listed : path ∈ fixedPaths) (out : List String) :
    out <+: Path.land out path := by
  have each : ∀ path ∈ fixedPaths, (Path.within? [] (Path.names path)).isSome = true := by decide
  exact (Path.stays_iff path).mpr (Option.isSome_iff_exists.mp (each path listed)) out

theorem mem_files {c : Client} {options : Option ManifestOptions} {f : File}
    (member : f ∈ c.files options) : f.path ∈ fixedPaths ∨
      (∃ declaration ∈ c.declarations, f = declaration.file) ∨ ∃ r ∈ c.requests, f = r.file := by
  simp only [Client.files,List.mem_append,List.mem_map,List.mem_singleton,Option.mem_toList,
    Option.map_eq_some_iff] at member
  rcases member with (((fixed | declared) | requested) | index) | manifest
  · exact .inl (List.mem_append_left _ (List.mem_map_of_mem fixed))
  · obtain ⟨declaration,inside,rfl⟩ := declared
    exact .inr (.inl ⟨declaration,inside,rfl⟩)
  · obtain ⟨r,inside,rfl⟩ := requested
    exact .inr (.inr ⟨r,inside,rfl⟩)
  · rw [index]
    exact .inl (by simp [fixedPaths,index_path])
  · obtain ⟨o,_,rfl⟩ := manifest
    exact .inl (by simp [fixedPaths,manifestFile])

section Made

variable {d : Document} {o : Overrides} {all : List Endpoint} {c : Client} (made : d.Makes o all c)

include made

theorem requests_forward : ∀ r ∈ c.requests,
    ∃ rest, Path.within? [] (Path.names r.file.path) = some ("src" :: rest) := by
  intro r member
  apply request_forward
  apply identifier_points (d := d)
  rw [← requests_names made]
  exact List.mem_map_of_mem member

theorem files_stay_iff (options : Option ManifestOptions) :
    (∀ f ∈ c.files options, ∀ out, out <+: Path.land out f.path) ↔
      ∀ name ∈ d.definitions.names, Contained name := by
  rw [← declarations_names made.declarations,List.forall_mem_map]
  constructor
  · intro stay declaration member
    rw [← declaration_stays_iff]
    exact stay _ (declaration_member member options)
  · intro contained f member
    rcases mem_files member with fixed | ⟨declaration,inside,rfl⟩ | ⟨r,inside,rfl⟩
    · exact fixed_stays fixed
    · exact (declaration_stays_iff declaration).mpr (contained declaration inside)
    · obtain ⟨rest,within⟩ := requests_forward made r inside
      exact (Path.stays_iff _).mpr ⟨_,within⟩

theorem own_places_iff : (∀ out,
    (∀ e ∈ c.declarations, Path.land out e.file.path = out ++ ["types",e.name ++ ".js"]) ∧
    ∀ r ∈ c.requests, Path.land out r.file.path = out ++ ["src",r.name ++ ".js"]) ↔
      ∀ name ∈ d.definitions.names ++ d.identifiers, Plain name := by
  rw [← declarations_names made.declarations,← requests_names made,List.forall_mem_append,
    List.forall_mem_map,List.forall_mem_map]
  constructor
  · intro placed
    exact ⟨fun e member => (declaration_place_iff e).mp fun out => (placed out).1 e member,
      fun r member => (request_place_iff r).mp fun out => (placed out).2 r member⟩
  · rintro ⟨types,functions⟩ out
    exact ⟨fun e member => (declaration_place_iff e).mpr (types e member) out,
      fun r member => (request_place_iff r).mpr (functions r member) out⟩

end Made

/-- The files of a package stay in it exactly where the names of the definitions do, and request functions
stay in their directory in any case. Types and request functions all have the places that the modules call
them by exactly where no name holds a slash. -/
theorem files_placed {d : Document} {o : Overrides} {c : Client} (accepted : d.client o = .ok c)
    (options : Option ManifestOptions) :
    ((∀ f ∈ c.files options, ∀ out, out <+: Path.land out f.path) ↔
      ∀ name ∈ d.definitions.names, Contained name) ∧
    (∀ r ∈ c.requests, ∀ out, ∃ rest, Path.land out r.file.path = out ++ "src" :: rest) ∧
    ((∀ out,
        (∀ e ∈ c.declarations, Path.land out e.file.path = out ++ ["types",e.name ++ ".js"]) ∧
        ∀ r ∈ c.requests, Path.land out r.file.path = out ++ ["src",r.name ++ ".js"]) ↔
      ∀ name ∈ d.definitions.names ++ d.identifiers, Plain name) := by
  obtain ⟨all,made⟩ := client_made accepted
  refine ⟨files_stay_iff made options,?_,own_places_iff made⟩
  intro r member out
  obtain ⟨rest,within⟩ := requests_forward made r member
  exact ⟨rest,Path.land_within within out⟩

/-- A definition that is called by a path beside the types, and an operation that is called by one further
down. -/
def libraryDocument : Document where
  info := { title := "Library", version := "1" }
  paths := [("/books", .item { get := some { operationId := some "books/list.all" } })]
  definitions := [("Book", { type := some "string" }), ("../Shelf", { type := some "string" })]

theorem files_placed_library : ∃ c, libraryDocument.client = .ok c ∧
    (∀ f ∈ c.files (some {}), ∀ out, out <+: Path.land out f.path) ∧
    (∀ r ∈ c.requests, ∀ out, ∃ rest, Path.land out r.file.path = out ++ "src" :: rest) ∧
    ¬ ∀ out,
      (∀ e ∈ c.declarations, Path.land out e.file.path = out ++ ["types",e.name ++ ".js"]) ∧
      ∀ r ∈ c.requests, Path.land out r.file.path = out ++ ["src",r.name ++ ".js"] := by
  have found : fault? libraryDocument.client = none := by decide +kernel
  obtain ⟨c,accepted⟩ := fault?_eq_none.mp found
  obtain ⟨stays,requests,places⟩ := files_placed accepted (some {})
  have contained : ∀ name ∈ libraryDocument.definitions.names, Contained name := by decide +kernel
  have slashes : ¬ ∀ name ∈ libraryDocument.definitions.names ++ libraryDocument.identifiers,
      Plain name := by decide +kernel
  exact ⟨c,accepted,stays.mpr contained,requests,fun placed => slashes (places.mp placed)⟩

def strayText : String :=
  "\x7b\"swagger\": \"2.0\", \"info\": \x7b\"title\": \"Stray\", \"version\": \"1\"\x7d, " ++
  "\"paths\": \x7b\x7d, \"definitions\": \x7b\"../../stray\": \x7b\"type\": \"string\"\x7d\x7d\x7d"

/-- The document is accepted, and the file for its definition is beside the package and not in it. -/
theorem stray_definition_outside : ∃ d c, Document.ofJsonText strayText = .ok d ∧ d.client = .ok c ∧
    ∃ f ∈ c.files none, Path.land ["home","client"] f.path = ["home","stray.js"] ∧
      ¬ ["home","client"] <+: Path.land ["home","client"] f.path := by
  have outcome : ((Document.ofJsonText strayText).toOption.bind fun d => d.client.toOption.map fun c =>
      c.declarations.map (·.file.path)) = some ["types/../../stray.js"] := by decide +kernel
  obtain ⟨d,read,outcome⟩ := Option.bind_eq_some_iff.mp outcome
  obtain ⟨c,made,paths⟩ := Option.map_eq_some_iff.mp outcome
  obtain ⟨declaration,listed,path⟩ := List.map_eq_singleton_iff.mp paths
  refine ⟨d,c,toOption_eq_some.mp read,toOption_eq_some.mp made,declaration.file,
    declaration_member (by simp [listed]) none,?_⟩
  rw [path]
  exact ⟨by decide,by decide⟩

end FlowClient
