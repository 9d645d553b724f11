import Waymark.Proofs.Tree.Rooted

/-!
# Ports of hosts

A host header may name a port behind the host. What a gate is shown is the part
of the header in front of its first colon (`Scope.hostname_withHeader`), so what
follows a host and a colon never has a say (`HostGate.ignores_port`).

A name and an IPv4 address have no colon: there the part is the host itself, and
the gate matches exactly if its template reads the host. An IPv6 address has
colons of its own: there the gate is shown the bracket and the first group, with
a port and without, so a gate for the address refuses its own host
(`Site.loopback_refused`).
-/

namespace Waymark

namespace Scope

/-- The part of a host header that is taken for the host. -/
def beforeColon (h : String) : String := String.ofList (h.toList.takeWhile (· != ':'))

theorem not_mem_beforeColon (h : String) : ':' ∉ (beforeColon h).toList := by
  rw [beforeColon, String.toList_ofList]
  intro hmem
  exact absurd (List.mem_takeWhile_imp hmem) (by decide)

theorem beforeColon_of_not_mem {h : String} (hcolon : ':' ∉ h.toList) : beforeColon h = h := by
  have hall : ∀ c ∈ h.toList, (c != ':') = true := fun c hc =>
    bne_iff_ne.mpr fun heq => hcolon (heq ▸ hc)
  rw [beforeColon, List.takeWhile_eq_self_iff.mpr hall, String.ofList_toList]

theorem beforeColon_append (h p : String) : beforeColon (h ++ ":" ++ p) = beforeColon h := by
  have hstop : ∀ c ∈ (':' :: p.toList).head?, (c != ':') = false := by
    rintro c ⟨⟩
    rfl
  have hsplit : (h ++ ":" ++ p).toList = h.toList ++ ':' :: p.toList := by simp
  rw [beforeColon, hsplit, Text.takeWhile_append_stop hstop, beforeColon]

/-- Of an address in brackets with a colon, the opening bracket and the first group are left. -/
theorem beforeColon_bracketed {address : String} (hcolon : ':' ∈ address.toList) :
    beforeColon ("[" ++ address ++ "]") = "[" ++ beforeColon address := by
  obtain ⟨group, rest, hsplit⟩ := List.append_of_mem hcolon
  have haddress : address = String.ofList group ++ ":" ++ String.ofList rest := by
    rw [← String.toList_inj]
    simp [hsplit]
  have hbracketed : "[" ++ address ++ "]" =
      ("[" ++ String.ofList group) ++ ":" ++ (String.ofList rest ++ "]") := by
    rw [haddress]
    simp only [String.append_assoc]
  rw [hbracketed, beforeColon_append, haddress, beforeColon_append, ← String.toList_inj]
  simp [beforeColon]

theorem header?_withHeader {s : Scope} (hnew : s.header? "host" = none) (value : String) :
    (s.withHeader "host" value).header? "host" = some value := by
  have hlower : Text.lower "host" = "host" := by decide
  have hsame : Text.sameLetters "host" "host" = true := by decide
  rw [header?, Headers.get?, Option.map_eq_none_iff] at hnew
  rw [header?, Headers.get?, withHeader, List.find?_append, hnew]
  simp [hlower, hsame]

/-- The first host header of a scope decides its host. -/
theorem hostname_withHeader {s : Scope} (hnew : s.header? "host" = none) (value : String) :
    (s.withHeader "host" value).hostname = beforeColon value := by
  rw [hostname, header?_withHeader hnew]
  rfl

end Scope

namespace HostGate

/-- The verdict of a gate that is shown a host: in full with what the template reads, or not
at all when it does not read the host. -/
def Judges (g : HostGate) (s : Scope) (host : String) (v : Verdict) : Prop :=
  (∃ es, Template.Reads g.template.pieces host.toList es ∧ v = .full (g.contribution s es)) ∨
    (∀ es, ¬ Template.Reads g.template.pieces host.toList es) ∧ v.level = .none ∧ v.child = {}

/-- A verdict depends on the scope through its host, its kind and its parameters. -/
theorem judges_withHeader (g : HostGate) {s : Scope} (hk : s.kind.isRouted = true)
    (hnew : s.header? "host" = none) (value : String) :
    g.Judges s (Scope.beforeColon value) (g.verdict (s.withHeader "host" value)) := by
  have hkind : (s.withHeader "host" value).kind.isRouted = true := hk
  rw [verdict, hkind, Scope.hostname_withHeader hnew]
  rcases g.template.judge_cases (Scope.beforeColon value) _ with ⟨es, hes, heq⟩ | hno
  · exact Or.inl ⟨es, hes, heq⟩
  · exact Or.inr hno

/-- On a scope that has no host header yet, a gate gives the same verdict for a host with a port
and without: that on the part of the host in front of its first colon. The part is the host
itself exactly if that has no colon, as names and IPv4 addresses; of an address in brackets with
colons it is the bracket and the first group. -/
theorem ignores_port (g : HostGate) {s : Scope} (hk : s.kind.isRouted = true)
    (hnew : s.header? "host" = none) (h p : String) :
    g.verdict (s.withHeader "host" (h ++ ":" ++ p)) = g.verdict (s.withHeader "host" h) ∧
      g.Judges s (Scope.beforeColon h) (g.verdict (s.withHeader "host" h)) ∧
      (Scope.beforeColon h = h ↔ ':' ∉ h.toList) ∧
      ∀ address, h = "[" ++ address ++ "]" → ':' ∈ address.toList →
        Scope.beforeColon h = "[" ++ Scope.beforeColon address := by
  have hhost : (s.withHeader "host" (h ++ ":" ++ p)).hostname =
      (s.withHeader "host" h).hostname := by
    rw [Scope.hostname_withHeader hnew, Scope.hostname_withHeader hnew, Scope.beforeColon_append]
  refine ⟨?_, g.judges_withHeader hk hnew h, ⟨fun heq => ?_, Scope.beforeColon_of_not_mem⟩, ?_⟩
  · rw [verdict, verdict, hhost]
    rfl
  · exact heq ▸ Scope.not_mem_beforeColon h
  · rintro address rfl hcolon
    exact Scope.beforeColon_bracketed hcolon

end HostGate

namespace Site

theorem ignores_port_acme :
    let s := Scope.request "GET" "/"
    s.kind.isRouted = true ∧ s.header? "host" = none ∧
      tenants.verdict (s.withHeader "host" ("acme.example.com" ++ ":" ++ "8080")) =
        tenants.verdict (s.withHeader "host" "acme.example.com") ∧
      (tenants.verdict (s.withHeader "host" "acme.example.com")).level = .full := by
  intro s
  have hk : s.kind.isRouted = true := rfl
  have hnew : s.header? "host" = none := rfl
  obtain ⟨hsame, hjudges, -, -⟩ := tenants.ignores_port hk hnew "acme.example.com" "8080"
  refine ⟨hk, hnew, hsame, ?_⟩
  rcases hjudges with ⟨es, _, hfull⟩ | ⟨hno, _⟩
  · rw [hfull]
    rfl
  · have hcapture : Template.capturePieces? tenants.template.pieces
        (Scope.beforeColon "acme.example.com").toList = some ["acme".toList] := by decide +kernel
    exact absurd ⟨["acme".toList], hcapture, rfl⟩ (hno [("tenant", .str "acme")])

def loopback : HostGate where
  template := ⟨"[::1]", [.literal "[::1]".toList], by decide⟩
  target := .ofRouter ⟨[3]⟩ posts
  name := none

theorem registered_loopback : loopback.Registered .builtin := by
  have hparts : Template.parts "[::1]".toList = [.literal "[::1]".toList] := by decide +kernel
  have hcomp : Template.compile .builtin "[::1]" = .ok loopback.template := by
    refine Template.compile_eq_ok_iff.mpr ⟨rfl, ?_⟩
    rw [hparts]
    rfl
  refine ⟨"[::1]", ?_⟩
  simp only [HostGate.new, hcomp]
  rfl

/-- The gate for an IPv6 address reads the address and refuses it as a host. -/
theorem loopback_refused :
    let s := Scope.request "GET" "/"
    loopback.Registered .builtin ∧ s.header? "host" = none ∧
      Template.Reads loopback.template.pieces "[::1]".toList [] ∧
      (loopback.verdict (s.withHeader "host" "[::1]")).level = .none ∧
      (loopback.verdict (s.withHeader "host" "[::1]:8080")).level = .none := by
  intro s
  have hreads : Template.Reads loopback.template.pieces "[::1]".toList [] :=
    ⟨[], by decide +kernel, rfl⟩
  have hrefused : (loopback.verdict (s.withHeader "host" "[::1]")).level = .none := by
    decide +kernel
  have hport : (loopback.verdict (s.withHeader "host" "[::1]:8080")).level = .none := by
    decide +kernel
  exact ⟨registered_loopback, rfl, hreads, hrefused, hport⟩

end Site

end Waymark
