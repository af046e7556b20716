import FlowClient.Client
import FlowClient.Proofs.Declarations

/-! Clients of documents: endpoints first, then declarations, then a function for each endpoint. What fails first
is what is reported. -/

namespace FlowClient

/-- What the client is made of, where `all` are the endpoints of the document. -/
structure Document.Makes (d : Document) (o : Overrides) (all : List Endpoint) (c : Client) : Prop where
  endpoints : d.endpoints o.basePath = .ok all
  declarations : declarations d.definitions = .ok c.declarations
  requests : (all.mapM fun e => e.request d.definitions (d.hostname? o.baseUrl)) = .ok c.requests
  hostname : c.hostname = d.hostname? o.baseUrl

section Stages

variable {d : Document} {o : Overrides}

theorem client_of_endpoints {why : ConversionError} (failed : d.endpoints o.basePath = .error why) :
    d.client o = .error why := by
  unfold Document.client
  rw [failed]
  rfl

theorem client_of_declarations {all : List Endpoint} {why : ConversionError}
    (found : d.endpoints o.basePath = .ok all) (failed : declarations d.definitions = .error why) :
    d.client o = .error why := by
  unfold Document.client
  rw [found]
  change (declarations d.definitions >>= _) = _
  rw [failed]
  rfl

theorem client_fault? {all : List Endpoint} {declared : List Declaration}
    (found : d.endpoints o.basePath = .ok all) (declares : declarations d.definitions = .ok declared) :
    fault? (d.client o) =
      all.findSome? fun e => fault? (e.request d.definitions (d.hostname? o.baseUrl)) := by
  have whole : fault? (d.client o) = (fault? (all.mapM fun e =>
      e.request d.definitions (d.hostname? o.baseUrl))).or none := by
    unfold Document.client
    rw [found]
    change fault? (declarations d.definitions >>= _) = _
    rw [declares]
    change fault? ((all.mapM fun e => e.request d.definitions (d.hostname? o.baseUrl)) >>= _) = _
    exact bind_fault? fun _ => rfl
  rw [whole,Option.or_none,mapM_fault?]

theorem client_made {c : Client} (accepted : d.client o = .ok c) : ∃ all, d.Makes o all c := by
  unfold Document.client at accepted
  cases found : d.endpoints o.basePath with
  | error why =>
    rw [found] at accepted
    cases accepted
  | ok all =>
    cases declares : declarations d.definitions with
    | error why =>
      rw [found,declares] at accepted
      cases accepted
    | ok declared =>
      cases made : all.mapM fun e => e.request d.definitions (d.hostname? o.baseUrl) with
      | error why =>
        rw [found,declares] at accepted
        dsimp only [bind,Except.bind] at accepted
        rw [made] at accepted
        cases accepted
      | ok requests =>
        rw [found,declares] at accepted
        dsimp only [bind,Except.bind] at accepted
        rw [made] at accepted
        cases accepted
        exact ⟨all,found,declares,made,rfl⟩

theorem client_of_requests {all : List Endpoint} {declared : List Declaration} {why : ConversionError}
    (found : d.endpoints o.basePath = .ok all) (declares : declarations d.definitions = .ok declared)
    (failed : (all.mapM fun e => e.request d.definitions (d.hostname? o.baseUrl)) = .error why) :
    d.client o = .error why := by
  rw [← fault?_eq_some,client_fault? found declares,← mapM_fault?,failed]
  rfl

theorem client_eq {all : List Endpoint} {declared : List Declaration}
    {requests : List RequestFunction} (found : d.endpoints o.basePath = .ok all)
    (declares : declarations d.definitions = .ok declared)
    (made : (all.mapM fun e => e.request d.definitions (d.hostname? o.baseUrl)) = .ok requests) :
    d.client o = .ok ⟨d.info,d.hostname? o.baseUrl,declared,requests,
      documentationWarnings all ++ collisionWarnings d.definitions.names ++
        d.schemeWarnings o.baseUrl⟩ := by
  unfold Document.client
  rw [found,declares]
  dsimp only [bind,Except.bind]
  rw [made]
  rfl

theorem client_found {all : List Endpoint} {declared : List Declaration}
    {requests : List RequestFunction} (found : d.endpoints o.basePath = .ok all)
    (declares : declarations d.definitions = .ok declared)
    (made : (all.mapM fun e => e.request d.definitions (d.hostname? o.baseUrl)) = .ok requests) :
    ∃ c, d.client o = .ok c ∧ c.declarations = declared ∧ c.requests = requests ∧
      c.hostname = d.hostname? o.baseUrl :=
  ⟨_,client_eq found declares made,rfl,rfl,rfl⟩

end Stages

end FlowClient
