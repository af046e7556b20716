import FlowClient.FileSystem.Path
import Mathlib.Data.List.Basic

/-! Trails of paths. A file calls another one by a path from the directory it is in; where the names of a
package hold no slash, the trail of each such path is that of the file that is meant. -/

namespace FlowClient.Path

/-- The trail of what a file calls by the path, which starts in the directory of the file. -/
def resolve (file path : String) : List String := (names path).foldl follow (names file).dropLast

/-- The name is a single one. -/
def Plain (name : String) : Prop := '/' ∉ name.toList

instance (name : String) : Decidable (Plain name) :=
  inferInstanceAs (Decidable ('/' ∉ name.toList))

theorem Plain.append {first second : String} (left : Plain first) (right : Plain second) :
    Plain (first ++ second) := by
  unfold Plain
  rw [String.toList_append,List.mem_append]
  exact not_or.mpr ⟨left,right⟩

theorem splitSlashes_plain {cs : List Char} (plain : '/' ∉ cs) : splitSlashes cs = [cs] := by
  induction cs with
  | nil => rfl
  | cons c rest ih =>
    obtain ⟨apart,later⟩ := not_or.mp (fun either => plain (List.mem_cons.mpr either))
    simp only [splitSlashes,if_neg (Ne.symm apart),ih later]

theorem splitSlashes_below {first : List Char} (plain : '/' ∉ first) (rest : List Char) :
    splitSlashes (first ++ '/' :: rest) = first :: splitSlashes rest := by
  induction first with
  | nil => rfl
  | cons c first ih =>
    obtain ⟨apart,later⟩ := not_or.mp (fun either => plain (List.mem_cons.mpr either))
    simp only [List.cons_append,splitSlashes,if_neg (Ne.symm apart),ih later]

theorem names_plain {name : String} (plain : Plain name) : names name = [name] := by
  rw [names,splitSlashes_plain plain,List.map_singleton,String.ofList_toList]

theorem names_below {directory : String} (plain : Plain directory) (path : String) :
    names (directory ++ "/" ++ path) = directory :: names path := by
  have chars : (directory ++ "/" ++ path).toList = directory.toList ++ '/' :: path.toList := by
    simp
  rw [names,chars,splitSlashes_below plain,List.map_cons,String.ofList_toList]
  rfl

/-- The name of a module's file leads on, whatever the module is called. -/
theorem follow_file (trail : List String) (name : String) :
    follow trail (name ++ ".js") = trail ++ [name ++ ".js"] := by
  have other {text : String} (short : text.length < 3) : (name ++ ".js" == text) = false := by
    rw [beq_eq_false_iff_ne]
    rintro rfl
    have ending : ".js".length = 3 := by decide
    rw [String.length_append,ending] at short
    omega
  rw [follow,isIdle,other (by decide),other (by decide),other (by decide)]
  rfl

section Modules

variable {directory name : String} (home : Plain directory) (plain : Plain name)

include home plain

theorem names_file : names (directory ++ "/" ++ name ++ ".js") = [directory,name ++ ".js"] := by
  rw [String.append_assoc,names_below home,names_plain (plain.append (by decide))]

theorem resolve_beside {other : String} (single : Plain other) :
    resolve (directory ++ "/" ++ name ++ ".js") ("./" ++ other ++ ".js") =
      [directory,other ++ ".js"] := by
  have path : "./" ++ other ++ ".js" = "." ++ "/" ++ other ++ ".js" := rfl
  rw [resolve,path,names_file home plain,names_file (by decide) single]
  exact follow_file [directory] other

theorem resolve_across {place other : String} (there : Plain place) (steps : follow [] place = [place])
    (single : Plain other) : resolve (directory ++ "/" ++ name ++ ".js")
      ("../" ++ place ++ "/" ++ other ++ ".js") = [place,other ++ ".js"] := by
  have path : "../" ++ place ++ "/" ++ other ++ ".js" =
      ".." ++ "/" ++ (place ++ "/" ++ other ++ ".js") := by
    simp only [String.append_assoc]
    rfl
  rw [resolve,path,names_file home plain,names_below (by decide),names_file there single]
  change follow (follow [] place) (other ++ ".js") = _
  rw [steps,follow_file]
  rfl

end Modules

theorem resolve_within {file place other : String} (root : Plain file) (there : Plain place)
    (steps : follow [] place = [place]) (single : Plain other) :
    resolve file ("./" ++ place ++ "/" ++ other ++ ".js") = [place,other ++ ".js"] := by
  have path : "./" ++ place ++ "/" ++ other ++ ".js" = "." ++ "/" ++ (place ++ "/" ++ other ++ ".js") := by
    simp only [String.append_assoc]
    rfl
  rw [resolve,path,names_plain root,names_below (by decide),names_file there single]
  change follow (follow [] place) (other ++ ".js") = _
  rw [steps,follow_file]
  rfl

end FlowClient.Path
