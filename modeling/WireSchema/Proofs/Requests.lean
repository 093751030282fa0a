/-
# A registry over a sequence of requests

A request that is refused leaves the registry as it was, and one that is met
adds the name it gives. So after any requests the taken names are the reserved
ones and those given (`gives_serve`), and the next request is answered by them
alone (`Registry.picks_choose`).

Key definitions: `Registry.serve`.
Key theorems: `Registry.serve_append`, `Registry.gives_serve`, `serve_law`.
-/

import WireSchema.Proofs.Generation

namespace WireSchema
namespace Registry

/-- The names that requests for the candidates give one after the other, and the
registry after the last one. A refused request does not stop the others. -/
def serve (r : Registry) : List String → List String × Registry
  | [] => ([], r)
  | candidate :: more =>
    match Naming.request candidate r with
    | .ok name r' => (name :: (r'.serve more).1, (r'.serve more).2)
    | .error _ r' => r'.serve more

variable {r r' : Registry} {candidate name : String}

theorem serve_of_ok (h : Naming.request candidate r = .ok name r') (more : List String) :
    r.serve (candidate :: more) = (name :: (r'.serve more).1, (r'.serve more).2) := by
  rw [serve, h]

theorem serve_of_error {e : NameError} (h : Naming.request candidate r = .error e r')
    (more : List String) : r.serve (candidate :: more) = r'.serve more := by
  rw [serve, h]

theorem serve_append : ∀ (front back : List String) (r : Registry),
    r.serve (front ++ back) = ((r.serve front).1 ++ ((r.serve front).2.serve back).1,
      ((r.serve front).2.serve back).2)
  | [], _, _ => rfl
  | candidate :: front, back, r => by
    rw [List.cons_append]
    cases hreq : Naming.request candidate r with
    | ok name r' =>
      rw [serve_of_ok hreq, serve_of_ok hreq, serve_append front back r']
      rfl
    | error e r' =>
      rw [serve_of_error hreq, serve_of_error hreq, serve_append front back r']

/-- **Requests give names that differ, and take nothing else.** -/
theorem gives_serve : ∀ (candidates : List String) (r : Registry),
    r.Gives (r.serve candidates).1 (r.serve candidates).2
  | [], r => .nil r
  | candidate :: more, r => by
    by_cases hc : candidate = ""
    · rw [hc, serve_of_error (Naming.request_empty r)]
      exact gives_serve more r
    · obtain ⟨name, r', hreq, -, hgives⟩ := Naming.request_of_ne r hc
      rw [serve_of_ok hreq]
      exact hgives.trans (gives_serve more r')

end Registry

/-- **The law of a registry.** After any requests to a registry with any reserved
names, the names given differ from each other and from the reserved ones, none
is a keyword, and the taken names are the reserved ones and those given. The
next request, if its candidate is empty, is refused and changes nothing. If not,
it gives the candidate, with an underscore if that is a keyword, or the first
numbered variant of it that is free. -/
theorem serve_law {reserved candidates given : List String} {r : Registry}
    (h : Registry.serve ⟨reserved⟩ candidates = (given, r)) :
    given.Nodup ∧
    (∀ name ∈ given, name ∉ reserved ∧ isKeyword name = false) ∧
    (∀ name, r.contains name = true ↔ name ∈ reserved ∨ name ∈ given) ∧
    Naming.request "" r = .error .emptyIdentifier r ∧
    Registry.serve ⟨reserved⟩ (candidates ++ [""]) = (given, r) ∧
    ∀ candidate, candidate ≠ "" → ∃ name r',
      Naming.request candidate r = .ok name r' ∧
      r.Picks (if isKeyword candidate then candidate ++ "_" else candidate) name ∧
      Registry.serve ⟨reserved⟩ (candidates ++ [candidate]) = (given ++ [name], r') := by
  have hgives : Registry.Gives ⟨reserved⟩ given r := by
    have hrun := Registry.gives_serve candidates ⟨reserved⟩
    rwa [h] at hrun
  refine ⟨hgives.nodup, fun name hname => ⟨hgives.fresh name hname, hgives.noKeyword name hname⟩,
    fun name => ?_, Naming.request_empty r, ?_, fun candidate hc => ?_⟩
  · simp [Registry.contains, hgives.used_eq, or_comm]
  · rw [Registry.serve_append, h, Registry.serve_of_error (Naming.request_empty r), Registry.serve,
      List.append_nil]
  · have hreq : Naming.request candidate r = .ok (r.choose (avoidKeyword candidate))
        ⟨r.choose (avoidKeyword candidate) :: r.used⟩ := by
      simp only [Naming.request, r.request_of_ne hc]
    refine ⟨_, _, hreq, r.picks_choose (avoidKeyword candidate), ?_⟩
    rw [Registry.serve_append, h, Registry.serve_of_ok hreq, Registry.serve]

/-- Requests that meet a reserved name, each other's variants and a keyword. -/
def crowdedRequests : List String := ["status", "status", "", "import", "import_", "status_3"]

theorem serve_law_crowded : ∃ given r,
    Registry.serve ⟨["status_2"]⟩ crowdedRequests = (given, r) ∧
    given = ["status", "status_3", "import_", "import__2", "status_3_2"] ∧
    "status" ≠ "" ∧ r.Picks "status" "status_4" := by
  have hgiven : (Registry.serve ⟨["status_2"]⟩ crowdedRequests).1 =
      ["status", "status_3", "import_", "import__2", "status_3_2"] := by
    decide +kernel
  have hmore : (Registry.serve ⟨["status_2"]⟩ (crowdedRequests ++ ["status"])).1 =
      ["status", "status_3", "import_", "import__2", "status_3_2", "status_4"] := by
    decide +kernel
  have hrun : Registry.serve ⟨["status_2"]⟩ crowdedRequests =
      (_, (Registry.serve ⟨["status_2"]⟩ crowdedRequests).2) := Prod.ext hgiven rfl
  have hne : "status" ≠ "" := by decide
  obtain ⟨-, -, -, -, -, hnext⟩ := serve_law hrun
  obtain ⟨name, r', -, hpicks, hserve⟩ := hnext "status" hne
  obtain rfl : name = "status_4" := by simpa [hserve] using hmore
  exact ⟨_, _, hrun, rfl, hne, hpicks⟩

end WireSchema
