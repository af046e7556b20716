import FlowClient.Proofs.Client
import FlowClient.Proofs.EndpointPlaces

/-! The warnings of clients: undocumented operations, then definitions whose names differ from earlier ones in
case only, then unused schemes. -/

namespace FlowClient

def RequestFunction.isUndocumented (r : RequestFunction) : Bool :=
  r.summary.isNone && r.description.isNone

/-- The first of the names that the text equals in lowercase. -/
def namesake? (names : List String) (text : String) : Option String :=
  names.find? fun name => Text.lowercase name = Text.lowercase text

def collisionAt? (names : List String) (place : Nat) : Option Warning := do
  let name ← names[place]?
  let existing ← namesake? (names.take place) name
  return .caseCollision name existing

section Collisions

/-- Of the names gone through, those kept are enough to find the first namesake of any text. -/
def Registers (gone kept : List String) : Prop := ∀ text, namesake? kept text = namesake? gone text

theorem namesake?_concat (names : List String) (name text : String) : namesake? (names ++ [name]) text =
    (namesake? names text).or (if Text.lowercase name = Text.lowercase text then some name else none) := by
  rw [namesake?,List.find?_append,List.find?_singleton]
  simp [namesake?]

theorem Registers.known {gone kept : List String} (registers : Registers gone kept)
    {name existing : String} (found : namesake? kept name = some existing) :
    Registers (gone ++ [name]) kept := by
  intro text
  rw [namesake?_concat,← registers text]
  by_cases same : Text.lowercase name = Text.lowercase text
  · have here : namesake? kept text = some existing := by
      rw [← found,namesake?,namesake?,same]
    rw [here,Option.some_or]
  · rw [if_neg same,Option.or_none]

theorem Registers.new {gone kept : List String} (registers : Registers gone kept) (name : String) :
    Registers (gone ++ [name]) (kept ++ [name]) := by
  intro text
  rw [namesake?_concat,namesake?_concat,registers text]

/-- What goes through one name more gives what went before, and the warning for that name. -/
theorem collisions_go_concat (rest : List String) (name : String) {gone kept : List String}
    (registers : Registers gone kept) : collisionWarnings.go kept (rest ++ [name]) =
      collisionWarnings.go kept rest ++
        ((namesake? (gone ++ rest) name).map (Warning.caseCollision name)).toList := by
  induction rest generalizing gone kept with
  | nil =>
    rw [List.append_nil,← registers name,namesake?]
    simp only [List.nil_append,collisionWarnings.go]
    split
    · rename_i existing found
      rw [found]
      rfl
    · rename_i absent
      rw [absent]
      rfl
  | cons next rest ih =>
    rw [List.cons_append,collisionWarnings.go,collisionWarnings.go]
    have whole : gone ++ next :: rest = gone ++ [next] ++ rest := by simp
    split
    · rename_i existing found
      rw [ih (registers.known found),List.cons_append,whole]
    · rw [ih (registers.new next),whole]

theorem collisionWarnings_concat (names : List String) (name : String) :
    collisionWarnings (names ++ [name]) = collisionWarnings names ++
      ((namesake? names name).map (Warning.caseCollision name)).toList :=
  collisions_go_concat names name fun _ => rfl

theorem collisionAt?_before {names : List String} {place : Nat} (inside : place < names.length)
    (name : String) : collisionAt? (names ++ [name]) place = collisionAt? names place := by
  unfold collisionAt?
  rw [List.getElem?_append_left inside,List.take_append_of_le_length (Nat.le_of_lt inside)]

theorem collisionAt?_last (names : List String) (name : String) :
    collisionAt? (names ++ [name]) names.length =
      (namesake? names name).map (Warning.caseCollision name) := by
  unfold collisionAt?
  rw [List.getElem?_concat_length,List.take_left]
  cases found : namesake? names name <;> simp [found]

/-- Name by name, the warnings are those for the names with an earlier namesake. -/
theorem collisionWarnings_eq (names : List String) :
    collisionWarnings names = (List.range names.length).filterMap (collisionAt? names) := by
  induction names using List.reverseRecOn with
  | nil => rfl
  | append_singleton names name ih =>
    have before : (List.range names.length).filterMap (collisionAt? (names ++ [name])) =
        (List.range names.length).filterMap (collisionAt? names) :=
      List.filterMap_congr fun place inside => collisionAt?_before (List.mem_range.mp inside) name
    rw [List.length_append,List.length_singleton,List.range_succ,List.filterMap_append,before,← ih,
      collisionWarnings_concat]
    congr 1
    rw [List.filterMap_cons,collisionAt?_last]
    cases namesake? names name <;> rfl

/-- There are as many warnings as names that add no new name in lowercase. -/
theorem collisionWarnings_length (names : List String) :
    (collisionWarnings names).length + (names.map Text.lowercase).eraseDups.length = names.length := by
  induction names using List.reverseRecOn with
  | nil => rfl
  | append_singleton names name ih =>
    have known : Text.lowercase name ∈ names.map Text.lowercase ↔ (namesake? names name).isSome = true := by
      rw [namesake?,List.find?_isSome,List.mem_map]
      simp
    rw [collisionWarnings_concat,List.map_append,List.map_singleton,eraseDups_concat]
    simp only [List.length_append,known]
    cases namesake? names name <;> simp <;> omega

end Collisions

theorem request_documented {e : Endpoint} {definitions : Table Schema} {hostname : Option String}
    {r : RequestFunction} (accepted : e.request definitions hostname = .ok r) :
    (e.id,e.isUndocumented) = (r.name,r.isUndocumented) := by
  obtain ⟨_,types,names,_,rfl⟩ := (request_ok_iff e definitions hostname r).mp accepted
  rfl

theorem documentationWarnings_requests {endpoints : List Endpoint} {definitions : Table Schema}
    {hostname : Option String} {requests : List RequestFunction}
    (made : (endpoints.mapM fun e => e.request definitions hostname) = .ok requests) :
    documentationWarnings endpoints =
      (requests.filter (·.isUndocumented)).map fun r => .documentationIncomplete r.name := by
  have same : endpoints.map (fun e => (e.id,e.isUndocumented)) =
      requests.map fun r => (r.name,r.isUndocumented) :=
    map_eq_of_forall₂ ((mapM_ok_forall₂ made).imp fun _ _ accepted => request_documented accepted)
  have read := congrArg (fun pairs : List (String × Bool) =>
    (pairs.filter Prod.snd).map fun pair => Warning.documentationIncomplete pair.1) same
  rw [documentationWarnings]
  simpa only [List.filter_map,List.map_map,Function.comp_def] using read

theorem schemeWarnings_eq (d : Document) (baseUrl : Option String) : d.schemeWarnings baseUrl =
    if baseUrl = none ∧ d.host.isSome = true ∧ 1 < d.schemes.length then
      d.schemes.head?.toList.map fun used => .multipleSchemes used d.schemes
    else [] := by
  unfold Document.schemeWarnings
  split
  · rename_i host used more rest given schemes
    simp [given,schemes]
  · rename_i other
    rw [if_neg]
    rintro ⟨rfl,host,several⟩
    obtain ⟨name,given⟩ := Option.isSome_iff_exists.mp host
    match schemes : d.schemes,several with
    | used :: more :: rest,_ => exact other name used more rest rfl given schemes

/-- The warnings of a client are those for its undocumented operations, those for its definitions with an
earlier namesake, as many as there are definitions over the distinct names in lowercase, and one where
only the first of several schemes is used. -/
theorem warnings_exact (d : Document) (o : Overrides) (c : Client) (accepted : d.client o = .ok c) :
    ∃ collisions, c.warnings =
        (c.requests.filter (·.isUndocumented)).map (fun r => .documentationIncomplete r.name) ++
        collisions ++
        (if o.baseUrl = none ∧ d.host.isSome = true ∧ 1 < d.schemes.length then
          d.schemes.head?.toList.map fun used => .multipleSchemes used d.schemes
        else []) ∧
      collisions = (List.range d.definitions.length).filterMap (collisionAt? d.definitions.names) ∧
      collisions.length + (d.definitions.names.map Text.lowercase).eraseDups.length =
        d.definitions.length := by
  obtain ⟨all,made⟩ := client_made accepted
  have whole := client_eq made.endpoints made.declarations made.requests
  rw [accepted] at whole
  have equal := congrArg Client.warnings (Except.ok.inj whole)
  have size : d.definitions.names.length = d.definitions.length := List.length_map _
  refine ⟨collisionWarnings d.definitions.names,?_,?_,?_⟩
  · rw [equal,documentationWarnings_requests made.requests,schemeWarnings_eq]
  · rw [← size]
    exact collisionWarnings_eq _
  · rw [← size]
    exact collisionWarnings_length _

/-- Two of three operations without documentation, a definition that two later ones collide with, and two schemes. -/
def zooDocument : Document where
  info := { title := "Zoo", version := "1" }
  host := some "zoo"
  schemes := ["https", "http"]
  paths := [
    ("/animals", .item {
      get := some { operationId := some "listAnimals" }
      post := some { operationId := some "addAnimal", description := some "New." } }),
    ("/keepers", .item { get := some { operationId := some "listKeepers" } })]
  definitions := [
    ("Animal", { type := some "string" }), ("ANIMAL", { type := some "string" }),
    ("Keeper", { type := some "string" }), ("animal", { type := some "string" })]

theorem warnings_exact_zoo : ∃ c, zooDocument.client = .ok c ∧
    c.warnings = [.documentationIncomplete "listAnimals", .documentationIncomplete "listKeepers",
      .caseCollision "ANIMAL" "Animal", .caseCollision "animal" "Animal",
      .multipleSchemes "https" ["https", "http"]] ∧
    ∃ collisions, c.warnings =
        (c.requests.filter (·.isUndocumented)).map (fun r => .documentationIncomplete r.name) ++
        collisions ++ [.multipleSchemes "https" ["https", "http"]] ∧
      collisions = (List.range 4).filterMap (collisionAt? zooDocument.definitions.names) ∧
      collisions.length + (zooDocument.definitions.names.map Text.lowercase).eraseDups.length = 4 := by
  have listed : zooDocument.client.toOption.map (·.warnings) =
      some [.documentationIncomplete "listAnimals", .documentationIncomplete "listKeepers",
        .caseCollision "ANIMAL" "Animal", .caseCollision "animal" "Animal",
        .multipleSchemes "https" ["https", "http"]] := by decide +kernel
  cases accepted : zooDocument.client with
  | error why =>
    rw [accepted] at listed
    cases listed
  | ok c =>
    rw [accepted] at listed
    exact ⟨c,rfl,Option.some.inj listed,warnings_exact zooDocument {} c accepted⟩

end FlowClient
