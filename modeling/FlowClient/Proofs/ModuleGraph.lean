import FlowClient.Package.Files
import FlowClient.Proofs.Client
import FlowClient.Proofs.Keyed
import FlowClient.Proofs.NamedTypes
import FlowClient.Proofs.Trail

/-! Module graph of a package. No two files have one path, and what a module imports or the index exports comes
from exactly one file of the package; for a type it is the file that declares it. The index exports every
operation and every definition once. -/

namespace FlowClient

open FlowClient.Path (Plain)

def File.trail (f : File) : List String := Path.names f.path

/-- What the file calls by this source is the target and no other file. -/
def LeadsTo (files : List File) (caller : File) (source : String) (target : File) : Prop :=
  files.filter (fun f => f.trail = Path.resolve caller.path (source ++ ".js")) = [target]

/-- The text of the file has a line for each of these after its head, and then the rest. -/
def File.Starts (f : File) (lines : List String) (rest : String) : Prop :=
  f.content = "// @flow\n\n" ++ String.join (lines.map (· ++ "\n")) ++ rest

/-- The file that declares the type of this name: the runtime's own file, or that of a declaration. -/
inductive Client.Declares (c : Client) : String → File → Prop
  | runtime : c.Declares requestType ⟨"types/AjaxObject.js", requestText⟩
  | declared (d : Declaration) (member : d ∈ c.declarations) : c.Declares d.name d.file

/-- The line exports what the module of this source has, under the name. -/
inductive Export.Line : Export → String → Prop
  | function (name source : String) :
    Line ⟨.value, name, source⟩ ("export \x7b default as " ++ name ++ " \x7d from '" ++ source ++ "';")
  | type (name source : String) :
    Line ⟨.type, name, source⟩ ("export type \x7b " ++ name ++ " \x7d from '" ++ source ++ "';")

/-- The lines of the index, but for blank ones and the first, are its exports. Each export leads to a file, and
there is one export for each operation and for each definition. -/
structure Client.Indexed (c : Client) (files : List File) : Prop where
  present : c.index ∈ files
  text : ∃ lines : List String, c.index.content = String.join (lines.map (· ++ "\n")) ∧
    List.Forall₂ Export.Line c.exports (lines.filter (· ∉ ["// @flow", ""]))
  sources : ∀ e ∈ c.exports, ∃ target, LeadsTo files c.index e.source target
  requests : ∀ r ∈ c.requests, ∃ source,
    c.exports.filter (fun e => e.kind = .value ∧ e.name = r.name) = [⟨.value, r.name, source⟩] ∧
      LeadsTo files c.index source r.file
  declarations : ∀ d ∈ c.declarations, ∃ source,
    c.exports.filter (fun e => e.kind = .type ∧ e.name = d.name) = [⟨.type, d.name, source⟩] ∧
      LeadsTo files c.index source d.file

/-- Every source in the modules and in the index of a client leads to one of these files. -/
structure Client.Closed (c : Client) (files : List File) : Prop where
  distinct : (files.map (·.path)).Nodup
  requests : ∀ r ∈ c.requests, r.file ∈ files ∧
    (∃ rest, r.file.Starts (r.module.imports.map Import.print) rest) ∧ ∀ i ∈ r.module.imports,
    ∃ target, LeadsTo files r.file i.source target ∧
      (i.kind = .type → ∀ s ∈ i.specifiers, c.Declares s.origin.2 target)
  declarations : ∀ d ∈ c.declarations, d.file ∈ files ∧
    (∃ gap, d.file.Starts (d.imports.map siblingImport)
      (gap ++ "export type " ++ d.name ++ " = " ++ d.type.print ++ ";\n")) ∧ ∀ name ∈ d.imports,
    ∃ target, LeadsTo files d.file (siblingSource name) target ∧ c.Declares name target
  index : c.Indexed files

/-- Each reference that typing meets on the way to a client names a definition. -/
structure Document.Defines (d : Document) (basePath : Option String) : Prop where
  definitions : ∀ entry ∈ d.definitions, entry.2.Defined d.definitions
  endpoints : ∀ all, d.endpoints basePath = .ok all →
    ∀ e ∈ all, ∀ s ∈ e.schemas, s.Defined d.definitions

structure Client.Named (c : Client) : Prop where
  requests : (c.requests.map (·.name)).Nodup
  declarations : (c.declarations.map (·.name)).Nodup
  free : requestType ∉ c.declarations.map (·.name)
  plainRequests : ∀ r ∈ c.requests, Plain r.name
  plainDeclarations : ∀ d ∈ c.declarations, Plain d.name

theorem moduleName_inj {first second : String} (same : first ++ ".js" = second ++ ".js") :
    first = second := by
  rw [← String.toList_inj,String.toList_append,String.toList_append] at same
  exact String.toList_inj.mp (List.append_cancel_right same)

theorem requestFile_path (r : RequestFunction) : r.file.path = "src" ++ "/" ++ r.name ++ ".js" := rfl

theorem declarationFile_path (d : Declaration) : d.file.path = "types" ++ "/" ++ d.name ++ ".js" := rfl

theorem requestFile_starts (r : RequestFunction) :
    ∃ rest, r.file.Starts (r.module.imports.map Import.print) rest := by
  simp only [File.Starts,RequestFunction.file,String.append_assoc]
  exact ⟨_,rfl⟩

theorem declarationFile_starts (d : Declaration) : ∃ gap, d.file.Starts (d.imports.map siblingImport)
    (gap ++ "export type " ++ d.name ++ " = " ++ d.type.print ++ ";\n") := by
  refine ⟨if d.imports.isEmpty then "" else "\n",?_⟩
  simp only [File.Starts,Declaration.file,String.append_assoc]
  rfl

theorem index_path (c : Client) : c.index.path = "index.js" := rfl

theorem helperSource_path (name : String) :
    helperSource name ++ ".js" = "../" ++ "helpers" ++ "/" ++ name ++ ".js" := rfl

theorem typeSource_path (name : String) :
    typeSource name ++ ".js" = "../" ++ "types" ++ "/" ++ name ++ ".js" := rfl

theorem siblingSource_path (name : String) : siblingSource name ++ ".js" = "./" ++ name ++ ".js" := rfl

theorem requestSource_path (name : String) :
    requestSource name ++ ".js" = "./" ++ "src" ++ "/" ++ name ++ ".js" := rfl

theorem declaredSource_path (name : String) :
    declaredSource name ++ ".js" = "./" ++ "types" ++ "/" ++ name ++ ".js" := rfl

def trails (directory : String) (names : List String) : List (List String) :=
  names.map fun name => [directory,name ++ ".js"]

theorem trails_nodup (directory : String) {names : List String} (distinct : names.Nodup) :
    (trails directory names).Nodup :=
  distinct.map fun _ _ same => moduleName_inj (List.cons.inj (List.cons.inj same).2).1

theorem trails_disjoint {directory other : String} (apart : directory ≠ other)
    (names others : List String) : (trails directory names).Disjoint (trails other others) := by
  intro trail here there
  obtain ⟨_,_,rfl⟩ := List.mem_map.mp here
  obtain ⟨_,_,same⟩ := List.mem_map.mp there
  exact apart (List.cons.inj same).1.symm

theorem trails_disjoint_root (directory : String) (names roots : List String) :
    (trails directory names).Disjoint (roots.map fun file => [file]) := by
  intro trail here there
  obtain ⟨_,_,rfl⟩ := List.mem_map.mp here
  obtain ⟨_,_,same⟩ := List.mem_map.mp there
  cases (List.cons.inj same).2

theorem runtime_trails : runtimeFiles.map File.trail =
    trails "helpers" [pipeName,queryHelper,formHelper] ++ trails "types" [requestType] := by decide

/-- The files at the root of a package: the index, and the manifest where there is one. -/
def rootFiles (options : Option ManifestOptions) : List String :=
  "index.js" :: options.toList.map fun _ => "package.json"

section Trails

variable {c : Client} (named : c.Named)

include named

theorem request_trail {r : RequestFunction} (member : r ∈ c.requests) :
    r.file.trail = ["src",r.name ++ ".js"] := by
  rw [File.trail,requestFile_path]
  exact Path.names_file (by decide) (named.plainRequests r member)

theorem declaration_trail {d : Declaration} (member : d ∈ c.declarations) :
    d.file.trail = ["types",d.name ++ ".js"] := by
  rw [File.trail,declarationFile_path]
  exact Path.names_file (by decide) (named.plainDeclarations d member)

/-- The trails of a package's files: for each directory those of its modules, and those at the root. -/
theorem files_trails (options : Option ManifestOptions) :
    (c.files options).map File.trail =
      trails "helpers" [pipeName,queryHelper,formHelper] ++
      trails "types" (requestType :: c.declarations.map (·.name)) ++
      trails "src" (c.requests.map (·.name)) ++ (rootFiles options).map fun file => [file] := by
  have declared : (c.declarations.map Declaration.file).map File.trail =
      trails "types" (c.declarations.map (·.name)) := by
    rw [trails,List.map_map,List.map_map]
    exact List.map_congr_left fun d member => declaration_trail named member
  have requested : (c.requests.map RequestFunction.file).map File.trail =
      trails "src" (c.requests.map (·.name)) := by
    rw [trails,List.map_map,List.map_map]
    exact List.map_congr_left fun r member => request_trail named member
  have roots : ([c.index] ++ (options.map (manifestFile c.info)).toList).map
      File.trail = (rootFiles options).map fun file => [file] := by
    have index : Path.names "index.js" = ["index.js"] := by decide
    have manifest : Path.names "package.json" = ["package.json"] := by decide
    cases options with
    | none => exact congrArg (fun trail => [trail]) index
    | some o => exact congrArg₂ (fun first second => [first,second]) index manifest
  rw [Client.files,List.append_assoc _ [c.index],List.map_append,List.map_append,List.map_append,
    runtime_trails,declared,requested,roots]
  simp only [trails,List.map_cons,List.map_nil,List.append_assoc,List.cons_append,List.nil_append]

theorem files_apart (options : Option ManifestOptions) :
    ((c.files options).map File.trail).Nodup := by
  have roots : ((rootFiles options).map fun file => [file]).Nodup := by
    cases options <;> simp [rootFiles]
  rw [files_trails named,List.nodup_append',List.nodup_append',List.nodup_append',
    List.disjoint_append_left,List.disjoint_append_left,List.disjoint_append_left]
  refine ⟨⟨⟨by decide,trails_nodup _ ?_,trails_disjoint (by decide) _ _⟩,
    trails_nodup _ named.requests,trails_disjoint (by decide) _ _,trails_disjoint (by decide) _ _⟩,roots,
    ⟨trails_disjoint_root _ _ _,trails_disjoint_root _ _ _⟩,trails_disjoint_root _ _ _⟩
  exact List.nodup_cons.mpr ⟨named.free,named.declarations⟩

/-- Where a call resolves to the trail of a file, it leads to this file alone. -/
theorem leadsTo_of_trail {options : Option ManifestOptions} {caller target : File} {source : String}
    (member : target ∈ c.files options)
    (trail : Path.resolve caller.path (source ++ ".js") = target.trail) :
    LeadsTo (c.files options) caller source target := by
  unfold LeadsTo
  rw [trail]
  exact filter_eq_singleton File.trail _ target (files_apart named options) member

omit named in
theorem declaration_member {d : Declaration} (member : d ∈ c.declarations)
    (options : Option ManifestOptions) : d.file ∈ c.files options := by
  simp only [Client.files,List.mem_append]
  exact .inl (.inl (.inl (.inr (List.mem_map_of_mem member))))

theorem declares_trail {name : String} {target : File} (declares : c.Declares name target)
    (options : Option ManifestOptions) : Plain name ∧ target ∈ c.files options ∧
      target.trail = ["types",name ++ ".js"] := by
  cases declares with
  | runtime => exact ⟨by decide,by simp [Client.files,runtimeFiles],by decide⟩
  | declared d member =>
    exact ⟨named.plainDeclarations d member,declaration_member member options,
      declaration_trail named member⟩

omit named in
theorem request_member {r : RequestFunction} (member : r ∈ c.requests)
    (options : Option ManifestOptions) : r.file ∈ c.files options := by
  simp only [Client.files,List.mem_append]
  exact .inl (.inl (.inr (List.mem_map_of_mem member)))

omit named in
theorem index_member (options : Option ManifestOptions) : c.index ∈ c.files options := by
  simp [Client.files]

theorem helper_leads {r : RequestFunction} (member : r ∈ c.requests)
    (options : Option ManifestOptions) {helper : String}
    (listed : helper ∈ [pipeName,queryHelper,formHelper]) :
    ∃ target, LeadsTo (c.files options) r.file (helperSource helper) target := by
  have plain : ∀ helper ∈ [pipeName,queryHelper,formHelper], Plain helper := by decide
  have trail : ["helpers",helper ++ ".js"] ∈ trails "helpers" [pipeName,queryHelper,formHelper] :=
    List.mem_map_of_mem listed
  have present := List.mem_append_left (trails "types" [requestType]) trail
  rw [← runtime_trails] at present
  obtain ⟨target,runtime,trail⟩ := List.mem_map.mp present
  refine ⟨target,leadsTo_of_trail named ?_ ?_⟩
  · simp only [Client.files,List.mem_append]
    exact .inl (.inl (.inl (.inl runtime)))
  · rw [trail,requestFile_path,helperSource_path]
    exact Path.resolve_across (by decide) (named.plainRequests r member)
      (by decide) (by decide) (plain helper listed)

theorem type_leads {r : RequestFunction} (member : r ∈ c.requests) (options : Option ManifestOptions)
    {name : String} {target : File} (declares : c.Declares name target) :
    LeadsTo (c.files options) r.file (typeSource name) target := by
  obtain ⟨plain,present,trail⟩ := declares_trail named declares options
  apply leadsTo_of_trail named present
  rw [trail,requestFile_path,typeSource_path]
  exact Path.resolve_across (by decide) (named.plainRequests r member)
    (by decide) (by decide) plain

theorem sibling_leads {d : Declaration} (member : d ∈ c.declarations)
    (options : Option ManifestOptions) {name : String} {target : File}
    (declares : c.Declares name target) :
    LeadsTo (c.files options) d.file (siblingSource name) target := by
  obtain ⟨plain,present,trail⟩ := declares_trail named declares options
  apply leadsTo_of_trail named present
  rw [trail,declarationFile_path,siblingSource_path]
  exact Path.resolve_beside (by decide) (named.plainDeclarations d member) plain

theorem index_request {r : RequestFunction} (member : r ∈ c.requests) (options : Option ManifestOptions) :
    LeadsTo (c.files options) c.index (requestSource r.name) r.file := by
  apply leadsTo_of_trail named (request_member member options)
  rw [request_trail named member,index_path,requestSource_path]
  exact Path.resolve_within (by decide) (by decide) (by decide) (named.plainRequests r member)

theorem index_declaration {d : Declaration} (member : d ∈ c.declarations) (options : Option ManifestOptions) :
    LeadsTo (c.files options) c.index (declaredSource d.name) d.file := by
  obtain ⟨plain,present,trail⟩ := declares_trail named (.declared d member) options
  apply leadsTo_of_trail named present
  rw [trail,index_path,declaredSource_path]
  exact Path.resolve_within (by decide) (by decide) (by decide) plain

end Trails

section Index

theorem export_line (e : Export) : e.Line e.print ∧ e.print ∉ ["// @flow", ""] := by
  obtain ⟨kind,name,source⟩ := e
  have starts : ∃ rest, (Export.print ⟨kind,name,source⟩).toList = 'e' :: rest := by
    cases kind <;> simp [Export.print]
  obtain ⟨rest,chars⟩ := starts
  refine ⟨?_,?_⟩
  · cases kind
    · exact .function name source
    · exact .type name source
  · intro listed
    rcases List.mem_pair.mp listed with same | same <;> rw [same] at chars <;> cases chars

theorem exports_functions (c : Client) : c.exports.filter (·.kind = .value) =
    c.requests.map fun r => ⟨.value, r.name, requestSource r.name⟩ := by
  simp [Client.exports,List.filter_map,Function.comp_def]

theorem exports_types (c : Client) : c.exports.filter (·.kind = .type) =
    c.declarations.map fun d => ⟨.type, d.name, declaredSource d.name⟩ := by
  simp [Client.exports,List.filter_map,Function.comp_def]

theorem export_lines (exports : List Export) :
    List.Forall₂ Export.Line exports (exports.map Export.print) ∧
      (exports.map Export.print).filter (· ∉ ["// @flow", ""]) = exports.map Export.print := by
  constructor
  · rw [List.forall₂_map_right_iff]
    exact List.forall₂_same.mpr fun e _ => (export_line e).1
  · rw [List.filter_eq_self]
    intro line member
    obtain ⟨e,_,rfl⟩ := List.mem_map.mp member
    exact decide_eq_true (export_line e).2

theorem index_text (c : Client) : ∃ lines : List String,
    c.index.content = String.join (lines.map (· ++ "\n")) ∧
      List.Forall₂ Export.Line c.exports (lines.filter (· ∉ ["// @flow", ""])) := by
  obtain ⟨functionLines,functionsKept⟩ := export_lines (c.exports.filter (·.kind = .value))
  obtain ⟨typeLines,typesKept⟩ := export_lines (c.exports.filter (·.kind = .type))
  have parts : c.exports = c.exports.filter (·.kind = .value) ++ c.exports.filter (·.kind = .type) := by
    rw [exports_functions,exports_types]
    rfl
  -- A blank line stands between the functions and the types, where there are types.
  refine ⟨["// @flow", ""] ++ (c.exports.filter (·.kind = .value)).map Export.print ++
    (if (c.exports.filter (·.kind = .type)).isEmpty then [] else [""]) ++
      (c.exports.filter (·.kind = .type)).map Export.print,?_,?_⟩
  · have head (rest : String) : moduleHead ++ rest = "// @flow\n" ++ ("\n" ++ rest) := by
      rw [← String.append_assoc]
      rfl
    simp only [Client.index,indexFile,onLines]
    cases c.exports.filter (·.kind = .type) <;> simp [String.append_assoc,head]
  · have gap : (if (c.exports.filter (·.kind = .type)).isEmpty then [] else [""]).filter
        (· ∉ ["// @flow", ""]) = [] := by split <;> rfl
    rw [List.filter_append,List.filter_append,List.filter_append,functionsKept,typesKept,gap,List.append_nil]
    conv => lhs; rw [parts]
    exact List.rel_append functionLines typeLines

/-- One export of its kind has the name of a module's file. -/
theorem export_once {c : Client} {α : Type} {kind : ImportKind} {name source : α → String} {items : List α}
    (listed : c.exports.filter (·.kind = kind) = items.map fun i => ⟨kind, name i, source i⟩)
    (distinct : (items.map name).Nodup) {item : α} (member : item ∈ items) :
    c.exports.filter (fun e => e.kind = kind ∧ e.name = name item) = [⟨kind, name item, source item⟩] := by
  have split : c.exports.filter (fun e => e.kind = kind ∧ e.name = name item) =
      (c.exports.filter (·.kind = kind)).filter (·.name = name item) := by
    rw [List.filter_filter]
    simp [and_comm]
  rw [split,listed]
  refine filter_eq_singleton Export.name _ ⟨kind, name item, source item⟩ ?_ (List.mem_map_of_mem member)
  rw [List.map_map]
  exact distinct

theorem client_indexed {c : Client} (named : c.Named) (options : Option ManifestOptions) :
    c.Indexed (c.files options) := by
  refine ⟨index_member options,index_text c,?_,?_,?_⟩
  · intro e member
    rcases List.mem_append.mp member with function | type
    · obtain ⟨r,inside,rfl⟩ := List.mem_map.mp function
      exact ⟨_,index_request named inside options⟩
    · obtain ⟨d,inside,rfl⟩ := List.mem_map.mp type
      exact ⟨_,index_declaration named inside options⟩
  · intro r member
    exact ⟨requestSource r.name,export_once (exports_functions c) named.requests member,
      index_request named member options⟩
  · intro d member
    exact ⟨declaredSource d.name,export_once (exports_types c) named.declarations member,
      index_declaration named member options⟩

end Index

section Accepted

variable {d : Document} {o : Overrides} {c : Client} {all : List Endpoint} (made : d.Makes o all c)

include made

theorem requests_names : c.requests.map (·.name) = d.identifiers := by
  have each (e : Endpoint) (r : RequestFunction)
      (accepted : e.request d.definitions (d.hostname? o.baseUrl) = .ok r) : r.name = e.id := by
    obtain ⟨_,_,_,_,rfl⟩ := (request_ok_iff _ _ _ _).mp accepted
    rfl
  rw [mapM_ok_map each made.requests,endpoints_ids made.endpoints]

theorem client_named (keyed : d.Keyed)
    (plain : ∀ name ∈ d.definitions.names ++ d.identifiers, Plain name) : c.Named := by
  have requests := requests_names made
  have declared := declarations_names made.declarations
  refine ⟨?_,declared ▸ keyed.definitions,declared ▸ (declarations_ok made.declarations).1,?_,?_⟩
  · rw [requests]
    exact ((endpoints_found_iff d o.basePath).mp ⟨all,made.endpoints⟩).2
  · intro r member
    apply plain r.name
    rw [List.mem_append,← requests]
    exact .inr (List.mem_map_of_mem member)
  · intro declaration member
    apply plain declaration.name
    rw [List.mem_append,← declared]
    exact .inl (List.mem_map_of_mem member)

theorem definition_declared {name : String} (defined : name ∈ d.definitions.names) :
    ∃ target, c.Declares name target := by
  rw [← declarations_names made.declarations] at defined
  obtain ⟨declaration,member,rfl⟩ := List.mem_map.mp defined
  exact ⟨_,.declared declaration member⟩

theorem request_closed (defines : d.Defines o.basePath) (named : c.Named)
    (options : Option ManifestOptions) {r : RequestFunction} (member : r ∈ c.requests) {i : Import}
    (imported : i ∈ r.module.imports) : ∃ target, LeadsTo (c.files options) r.file i.source target ∧
      (i.kind = .type → ∀ s ∈ i.specifiers, c.Declares s.origin.2 target) := by
  obtain ⟨e,endpoint,accepted⟩ := mapM_ok_mem made.requests member
  obtain ⟨_,assembled⟩ := request_assembled e _ _ r accepted
  obtain ⟨rest,listed,each⟩ := requestImports_rest (!e.inputs.query.isEmpty)
    (!e.inputs.form.isEmpty) r.typeImports (localNames r.typeImports)
  have typed {name : String} {target : File} (bound : String) (declares : c.Declares name target) :
      LeadsTo (c.files options) r.file (typeImport name bound).source target ∧
        ((typeImport name bound).kind = .type →
          ∀ s ∈ (typeImport name bound).specifiers, c.Declares s.origin.2 target) := by
    refine ⟨type_leads named member options declares,fun _ s inside => ?_⟩
    have origin : s.origin ∈ (typeImport name bound).specifiers.map Specifier.origin :=
      List.mem_map_of_mem inside
    rw [typeImport_origin,List.mem_singleton] at origin
    rw [origin]
    exact declares
  rw [assembled.imports,listed] at imported
  rcases List.mem_cons.mp imported with rfl | later
  · exact ⟨_,typed _ .runtime⟩
  · obtain ⟨helper,known,rfl⟩ | ⟨definition,name,pair,rfl⟩ := each i later
    · obtain ⟨target,leads⟩ := helper_leads named member options known
      exact ⟨target,leads,nofun⟩
    · have defined := request_imports accepted (defines.endpoints all made.endpoints e endpoint)
        (List.of_mem_zip pair).1
      obtain ⟨target,declares⟩ := definition_declared made defined
      exact ⟨target,typed _ declares⟩

theorem declaration_closed (defines : d.Defines o.basePath) (named : c.Named)
    (options : Option ManifestOptions) {declaration : Declaration}
    (member : declaration ∈ c.declarations) {name : String} (imported : name ∈ declaration.imports) :
    ∃ target, LeadsTo (c.files options) declaration.file (siblingSource name) target ∧
      c.Declares name target := by
  have defined := declaration_imports made.declarations defines.definitions member imported
  obtain ⟨target,declares⟩ := definition_declared made defined
  exact ⟨target,sibling_leads named member options declares,declares⟩

end Accepted

/-- The package of an accepted document is closed where its names hold no slash and its references name
definitions, and its index exports each operation and each definition once. -/
theorem client_closed {d : Document} {o : Overrides} {c : Client} (accepted : d.client o = .ok c)
    (keyed : d.Keyed) (plain : ∀ name ∈ d.definitions.names ++ d.identifiers, Plain name)
    (defines : d.Defines o.basePath) (options : Option ManifestOptions) :
    c.Closed (c.files options) ∧
      c.requests.map (·.name) = d.identifiers ∧ d.identifiers.Nodup ∧
      c.declarations.map (·.name) = d.definitions.names ∧ d.definitions.names.Nodup := by
  obtain ⟨all,made⟩ := client_made accepted
  have named := client_named made keyed plain
  have requests := requests_names made
  refine ⟨⟨?_,?_,?_,client_indexed named options⟩,requests,requests ▸ named.requests,
    declarations_names made.declarations,keyed.definitions⟩
  · have apart := files_apart named options
    have trails := List.map_map (g := Path.names) (f := fun f : File => f.path) (l := c.files options)
    exact List.Nodup.of_map Path.names (trails ▸ apart)
  · intro r member
    exact ⟨request_member member options,requestFile_starts r,fun i imported =>
      request_closed made defines named options member imported⟩
  · intro declaration member
    exact ⟨declaration_member member options,declarationFile_starts declaration,fun name imported =>
      declaration_closed made defines named options member imported⟩

/-- Orders of lines: one definition refers to another one, and an operation to the first. -/
def ordersDocument : Document where
  info := { title := "Orders", version := "1" }
  paths := [
    ("/orders", .item {
      post := some {
        operationId := some "saveOrder"
        parameters := [
          .inline { name := "draft", location := .query, type := some "boolean" },
          .inline { name := "order", location := .body, required := true,
                    schema := some { ref := some "#/definitions/Order" } }]
        responses := [("200", { schema := some { ref := some "#/definitions/Order" } })] } })]
  definitions := [
    ("Line", { type := some "string" }),
    ("Order", {
      type := some "object"
      properties := [("lines", {
        type := some "array", items := some { ref := some "#/definitions/Line" } })] })]

theorem ordersDocument_defines : ordersDocument.Defines none := by
  constructor
  · intro entry member
    have each : ∀ entry ∈ ordersDocument.definitions,
        ∀ t ∈ schemasOver ordersDocument.definitions entry.2, ∀ name ∈ t.definitionName?,
          name ∈ ordersDocument.definitions.names := by decide +kernel
    exact Schema.defined_of_over (each entry member)
  · intro all found e member s inside
    have each : ∀ e ∈ (ordersDocument.endpoints none).toOption.getD [], ∀ s ∈ e.schemas,
        ∀ t ∈ schemasOver ordersDocument.definitions s, ∀ name ∈ t.definitionName?,
          name ∈ ordersDocument.definitions.names := by decide +kernel
    rw [found] at each
    exact Schema.defined_of_over (each e member s inside)

theorem client_closed_orders : ∃ c, ordersDocument.client = .ok c ∧ c.Closed (c.files (some {})) ∧
    c.requests.map (·.name) = ["saveOrder"] ∧ c.declarations.map (·.name) = ["Line", "Order"] := by
  have keyed : ordersDocument.Keyed := by decide
  have plain : ∀ name ∈ ordersDocument.definitions.names ++ ordersDocument.identifiers, Plain name := by
    decide +kernel
  have found : fault? ordersDocument.client = none := by decide +kernel
  have operations : ordersDocument.identifiers = ["saveOrder"] := by decide +kernel
  obtain ⟨c,accepted⟩ := fault?_eq_none.mp found
  obtain ⟨closed,requests,_,declared,_⟩ :=
    client_closed accepted keyed plain ordersDocument_defines (some {})
  exact ⟨c,accepted,closed,requests.trans operations,declared⟩

end FlowClient
