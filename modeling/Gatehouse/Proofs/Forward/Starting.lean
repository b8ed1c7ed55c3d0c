import Gatehouse.Proofs.Address.Carried
import Gatehouse.Proofs.Address.Groups
import Gatehouse.Proofs.Config.Acceptance
import Gatehouse.Proofs.Http.Authority
import Gatehouse.Proofs.Url.Parts
import Gatehouse.Server

/-!
# Starting with an accepted configuration

The target of a configuration is looked at twice. The check of the configuration reads
it as a URL and asks for a host. The server reads it in the same way, but writes host
and port down as an authority, and the grammar of authorities is another one. The two
differ in four characters: a quotation mark, a backtick and the two braces may stand in
the name of a host and in no authority.

All the rest agrees. What is between the dots of a name, be it encoded or not, and what
is between the brackets of an address passes as an authority with any port, and of the
reasons that a server has for not starting none but these characters is left once the
configuration has been accepted (`Server.assemble_accepted`).
-/

namespace Gatehouse.Url

open Text Http Uri

/-! ## Characters -/

/-- The characters that a host name may have and an authority may not. -/
def unsendable : List Char := ['"', '\x60', '\x7b', '\x7d']

theorem isAuthorityChar_of_mem_unsendable {c : Char} (h : c ∈ unsendable) :
    isAuthorityChar c = false := by
  simp only [unsendable, List.mem_cons, List.not_mem_nil, or_false] at h
  rcases h with rfl | rfl | rfl | rfl <;> decide

/-- All other characters of host names mean nothing to a scan. -/
theorem isPlainChar_of_isHostChar {c : Char} (h : isHostChar c = true)
    (hsendable : c ∉ unsendable) : isPlainChar c = true :=
  forall_ascii (P := fun c => isHostChar c = true → c ∉ unsendable → isPlainChar c = true)
    (by decide +kernel) (isHostChar_iff.mp h).1 h hsendable

theorem isPlainChar_of_isAddressChar {c : Char} (h : isAddressChar c = true) :
    isPlainChar c = true ∨ c = ':' :=
  forall_ascii (P := fun c => isAddressChar c = true → isPlainChar c = true ∨ c = ':')
    (by decide) (by have := toNat_of_isAddressChar h; omega) h

theorem isAuthorityChar_of_isAddressChar {c : Char} (h : isAddressChar c = true) :
    isAuthorityChar c = true := by
  rcases isPlainChar_of_isAddressChar h with hplain | rfl
  · exact (isPlainChar_iff.mp hplain).1
  · decide

theorem isPlainChar_of_mem_toDigits {n : Nat} :
    ∀ c ∈ Nat.toDigits 10 n, isPlainChar c = true :=
  forall_mem_toDigits (by decide) fun d hd =>
    (by decide : ∀ d : Fin 10, isPlainChar (Nat.digitChar d.1) = true) ⟨d, hd⟩

/-! ## Hosts -/

namespace Host

/-- **A host that a request can be sent to**: its name, if it is one, has none of the
four characters. -/
def Sendable (host : Host) : Prop := ∀ c ∈ host.toChars, c ∉ unsendable

instance (host : Host) : Decidable host.Sendable := List.decidableBAll _ _

theorem not_sendable_iff {host : Host} :
    ¬ host.Sendable ↔ ∃ c ∈ host.toChars, c ∈ unsendable := by
  simp [Sendable]

variable {s : List Char} {host : Host}

/-- **A host that was read** is an authority with any port, unless it has one of the
four characters. -/
theorem readAuthority_of_sendable (hparse : parse s = .ok host)
    (hsendable : host.Sendable) (port : Nat) :
    readAuthority (host.toChars ++ ':' :: Nat.toDigits 10 port)
      = .ok (String.ofList (host.toChars ++ ':' :: Nat.toDigits 10 port)) := by
  cases host with
  | name n =>
    exact readAuthority_of_plain
      (fun c hc => isPlainChar_of_isHostChar (isHostChar_of_parse hparse c hc) (hsendable c hc))
      isPlainChar_of_mem_toDigits
  | v4 ip =>
    refine readAuthority_of_plain (fun c hc => ?_) isPlainChar_of_mem_toDigits
    refine (isPlainChar_of_isAddressChar (IPv4.isAddressChar_of_mem c hc)).resolve_right ?_
    exact IPv4.ne_of_mem_toChars hc (by decide) (by decide)
  | v6 ip =>
    exact readAuthority_of_brackets
      (fun c hc => isPlainChar_of_isAddressChar (IPv6.isAddressChar_of_mem_shortChars c hc))
      ip.count_colon_shortChars_le isPlainChar_of_mem_toDigits

/-- An address can be in an authority. -/
theorem isAuthorityChar_of_mem_toChars (hname : ∀ n, host ≠ .name n) :
    ∀ c ∈ host.toChars, isAuthorityChar c = true := by
  intro c hc
  cases host with
  | name n => exact absurd rfl (hname n)
  | v4 ip => exact isAuthorityChar_of_isAddressChar (IPv4.isAddressChar_of_mem c hc)
  | v6 ip =>
    rw [toChars, List.mem_append, List.mem_cons, List.mem_singleton] at hc
    rcases hc with (rfl | hc) | rfl
    · decide
    · exact isAuthorityChar_of_isAddressChar (IPv6.isAddressChar_of_mem_shortChars c hc)
    · decide

/-- **A host with one of the four characters** is an authority with no port. -/
theorem readAuthority_of_not_sendable (hparse : parse s = .ok host) (h : ¬ host.Sendable)
    (port : Nat) :
    readAuthority (host.toChars ++ ':' :: Nat.toDigits 10 port) = .error .badCharacter := by
  obtain ⟨c, hc, hmem⟩ := not_sendable_iff.mp h
  have hbad := isAuthorityChar_of_mem_unsendable hmem
  obtain ⟨n, rfl⟩ : ∃ n, host = .name n := by
    by_contra hname
    have hgood := isAuthorityChar_of_mem_toChars (fun n hn => hname ⟨n, hn⟩) c hc
    rw [hbad] at hgood
    cases hgood
  refine readAuthority_of_bad (fun x hx => ?_) ⟨c, hc, hbad⟩ _
  by_cases hx' : x ∈ unsendable
  · exact Or.inr (isAuthorityChar_of_mem_unsendable hx')
  · exact Or.inl (isPlainChar_of_isHostChar (isHostChar_of_parse hparse x hx) hx')

end Host

/-- The host of a URL of a known scheme has been read as one. -/
theorem exists_parse_of_host {text : String} {u : Url} {host : Host} (h : parse text = .ok u)
    (hknown : isKnown u.scheme = true) (hhost : u.host = some host) :
    ∃ s, Host.parse s = .ok host := by
  have hport : u.effectivePort? ≠ none := by
    unfold effectivePort?
    rw [← Option.isSome_iff_ne_none, Option.isSome_or]
    exact Bool.or_eq_true_iff.mpr (Or.inr hknown)
  have hhost' : u.host ≠ none := hhost ▸ Option.some_ne_none host
  obtain ⟨_, hread⟩ := exists_withAuthority_of_parse h hhost' hport
  obtain ⟨-, ⟨_, p, hplace, hp⟩, -⟩ := eq_of_withAuthority hread
  exact exists_parse_of_place hknown hplace (hp.trans hhost)

end Gatehouse.Url

namespace Gatehouse

open Forward Url Http

/-! ## Targets -/

theorem Forward.Target.parse_eq {text : String} {u : Url} {host : Url.Host} {port : Nat}
    (hurl : Url.parse text = .ok u) (hhost : u.host = some host)
    (hport : u.effectivePort? = some port) :
    Target.parse text
      = ((Uri.readAuthority (host.toChars ++ ':' :: Nat.toDigits 10 port)).mapError .authority).map
          (⟨·, String.ofList (withoutTrailingSlashes u.path)⟩) := by
  simp only [Target.parse, Target.ofUrl, hurl, hhost, hport]
  cases Uri.readAuthority (host.toChars ++ ':' :: Nat.toDigits 10 port) <;> rfl

/-- **An accepted target** is a URL with a host and is a destination, unless one of
the four characters is in the host. -/
theorem Forward.Target.parse_of_accepted {text : String}
    (h : Config.targetError? text = none) :
    ∃ url host, Url.parse text = .ok url ∧ url.host = some host
      ∧ (host.Sendable → ∃ t, Target.parse text = .ok t)
      ∧ (¬ host.Sendable → Target.parse text = .error (.authority .badCharacter)) := by
  obtain ⟨url, host, hurl, hscheme, hhost⟩ := Config.targetError?_eq_none_iff.mp h
  obtain ⟨port, hport⟩ : ∃ port, url.effectivePort? = some port := by
    unfold effectivePort?
    rw [hscheme]
    cases url.port with
    | none => exact ⟨80, rfl⟩
    | some port => exact ⟨port, rfl⟩
  obtain ⟨_, hread⟩ := exists_parse_of_host hurl (by rw [hscheme]; rfl) hhost
  refine ⟨url, host, hurl, hhost, fun hgood => ?_, fun hbad => ?_⟩
  · rw [parse_eq hurl hhost hport, Url.Host.readAuthority_of_sendable hread hgood]
    exact ⟨_, rfl⟩
  · rw [parse_eq hurl hhost hport, Url.Host.readAuthority_of_not_sendable hread hbad]
    rfl

/-! ## Servers -/

/-- **A server starts with an accepted configuration**, unless one of four characters
is in the name of the backend. Let the page for an unreachable backend be read in any
way, and the lookup be any or none. If the host of the target has neither a quotation
mark nor a backtick nor a brace, the outcome is a server, whatever has been read. If it
has one of them, there is no server, and the target is refused for a character that no
URI may contain. -/
theorem Server.assemble_accepted {m : Type → Type} [Monad m] [LawfulMonad m]
    (openFile : String → m Files.Opened) {c : Config} (hc : c.problems = [])
    (lookup : Option Country.Lookup) :
    ∃ url host, Url.parse c.backend.targetUrl = .ok url ∧ url.host = some host
      ∧ (host.Sendable →
        ∃ started : Option Bytes × List Event → Server × List Event,
          Server.assemble openFile c lookup
            = (fun page => .ok (started page))
                <$> Server.readPage openFile c.backend.badGatewayPage)
      ∧ (¬ host.Sendable →
        Server.assemble openFile c lookup
          = pure (.error ⟨c.backend.targetUrl, .authority .badCharacter⟩)) := by
  obtain ⟨url, host, hparse, hhost, hgood, hbad⟩ :=
    Forward.Target.parse_of_accepted (Config.problems_eq_nil_iff.mp hc).target
  refine ⟨url, host, hparse, hhost, fun h => ?_, fun h => ?_⟩
  · obtain ⟨t, ht⟩ := hgood h
    unfold Server.assemble
    rw [ht]
    exact ⟨_, (map_eq_pure_bind _ _).symm⟩
  · unfold Server.assemble
    rw [hbad h]

/-- The usual configuration with another backend. -/
def leadingTo (url : String) : Config := { backend := { targetUrl := url } }

/-- An address in brackets is written in its short form and starts a server, with no
files to read and no lookup. -/
theorem Server.assemble_accepted_brackets :
    (leadingTo "http://[2001:DB8:0:0::1]:8080/app/").problems = []
      ∧ ∃ started, Server.assemble (m := Id) (fun _ => .missing)
          (leadingTo "http://[2001:DB8:0:0::1]:8080/app/") none = .ok started := by
  have hok : (leadingTo "http://[2001:DB8:0:0::1]:8080/app/").problems = [] := by
    decide +kernel
  obtain ⟨url, host, hparse, hhost, hstart, -⟩ :=
    Server.assemble_accepted (m := Id) (fun _ => .missing) hok none
  have hurl : Url.parse "http://[2001:DB8:0:0::1]:8080/app/" = .ok ⟨"http",
      some (.v6 ⟨0x2001, 0xdb8, 0, 0, 0, 0, 0, 1⟩), some 8080, "/app/".toList⟩ := by
    decide +kernel
  cases hurl.symm.trans hparse
  cases hhost
  obtain ⟨started, hstarted⟩ := hstart (by decide +kernel)
  exact ⟨hok, started _, hstarted⟩

/-- **A brace in the name of the backend** is accepted, and no server starts. -/
theorem Server.assemble_braced :
    (leadingTo "http://a\x7bb/").problems = []
      ∧ Server.assemble (m := Id) (fun _ => .missing) (leadingTo "http://a\x7bb/") none
        = .error ⟨"http://a\x7bb/", .authority .badCharacter⟩ := by
  have htarget : Forward.Target.parse "http://a\x7bb/" = .error (.authority .badCharacter) := by
    decide +kernel
  refine ⟨by decide +kernel, ?_⟩
  unfold Server.assemble
  rw [show (leadingTo "http://a\x7bb/").backend.targetUrl = "http://a\x7bb/" from rfl, htarget]
  rfl

end Gatehouse
