import Gatehouse.Proofs.Forward.Account
import Gatehouse.Proofs.Http.Authority
import Gatehouse.Proofs.Http.Uri
import Gatehouse.Proofs.Url.Parts

/-!
# Where a request goes is not for the client to say

A request that comes in names a resource, and it may name a scheme, a user, a host and
a port as well. Of all this its path and query go on and nothing else. They are put
behind the path of the configured target as text, and the whole is read again as a path
and query, so that it has to be said that the seam does not show: the path in front has
no character at which a query or a fragment could begin, and the text behind it has been
read before.

So for every request that could be read there is a URI to ask for, and it is the one
that the configuration and the request together write (`Target.uriFor?_of_parse`). The
backend is asked for this URI and for no other one, by the forwarder and by a server
with any layers around it (`Server.serve_destination`).
-/

namespace Gatehouse.Forward

open Http Url Chain Exchange

/-! ## Paths without slashes at the end -/

/-- What is left out of a path are slashes at its end. -/
theorem exists_eq_withoutTrailingSlashes_append (path : List Char) :
    ∃ n, path = withoutTrailingSlashes path ++ List.replicate n '/' := by
  have hslashes : path.reverse.takeWhile (· == '/')
      = List.replicate (path.reverse.takeWhile (· == '/')).length '/' :=
    List.eq_replicate_iff.mpr
      ⟨rfl, fun c hc => beq_iff_eq.mp (List.mem_takeWhile_imp (p := (· == '/')) hc)⟩
  refine ⟨(path.reverse.takeWhile (· == '/')).length, List.reverse_injective ?_⟩
  unfold withoutTrailingSlashes
  rw [List.reverse_append, List.reverse_reverse, List.reverse_replicate, ← hslashes,
    List.takeWhile_append_dropWhile]

/-- None is left. -/
theorem getLast?_withoutTrailingSlashes (path : List Char) :
    (withoutTrailingSlashes path).getLast? ≠ some '/' := by
  unfold withoutTrailingSlashes
  rw [List.getLast?_reverse]
  intro hslash
  have hhead := List.head?_dropWhile_not (· == '/') path.reverse
  rw [hslash] at hhead
  cases hhead

/-! ## Targets -/

namespace Target

/-- **A target is written in the URL that it was read from.** -/
theorem exists_url_of_parse {text : String} {t : Target} (h : Target.parse text = .ok t) :
    ∃ url host port, Url.parse text = .ok url ∧ url.host = some host
      ∧ url.effectivePort? = some port
      ∧ t = ⟨String.ofList (host.toChars ++ ':' :: Nat.toDigits 10 port),
          String.ofList (withoutTrailingSlashes url.path)⟩ := by
  unfold Target.parse at h
  split at h
  · cases h
  · next url hurl =>
    unfold Target.ofUrl at h
    split at h
    · cases h
    · next host hhost =>
      split at h
      · cases h
      · next port hport =>
        split at h
        · cases h
        · next authority hread =>
          cases h
          exact ⟨url, host, port, hurl, hhost, hport, by rw [Uri.eq_of_readAuthority hread]⟩

/-- **The URI to ask for** in place of a request URI that was read. -/
theorem uriFor?_of_parse {t : Target} (hbase : ∀ c ∈ t.basePath.toList, Uri.isPathChar c = true)
    {raw : String} {u : Uri} (hu : Uri.parse? raw = some u) :
    t.uriFor? u
      = some ⟨some "http", some t.authority, some (t.basePath ++ u.targetOrRoot)⟩ := by
  obtain ⟨hread, hsome⟩ := Uri.targetChars?_of_parse? hu
  unfold uriFor?
  rw [Uri.targetChars?_append hbase hsome, hread, Option.map_some, Option.map_some,
    ← String.toList_append, String.ofList_toList]

end Target

/-! ## Forwarders -/

section Forwarding

variable {β : Type} (files : Files.Disk) (choose : Cache.Chooser) (f : Forwarder)

/-- A forwarder asks once for the URI that there is to ask for. -/
theorem uris_meetings_forward (l : Line β) (r : Request) (s : Scene β) :
    (meetings (f.forward (world files choose) (dial (noting l))) r s).map Request.uri
      = (f.target.uriFor? r.uri).toList := by
  have hmet : meetings (f.forward (world files choose) (dial (noting l))) r s
      = (f.outgoing? r).toList :=
    ((passes_forward files choose f _).meetings_eq (notes_dial l) r s).resolve_right And.left
  rw [hmet]
  unfold Forwarder.outgoing?
  cases f.target.uriFor? r.uri <;> rfl

/-- Where there is none, the client is told so. -/
theorem forward_of_unusable {connect : Connector (Exchange β)} {r : Request}
    (huri : f.target.uriFor? r.uri = none) (s : Scene β) :
    (f.forward (world files choose) connect r s).1 = .ok (.text .badRequest "Bad request") := by
  have hout : f.outgoing? r = none := by
    unfold Forwarder.outgoing?
    rw [huri]
    rfl
  unfold Forwarder.forward
  rw [hout]
  rfl

end Forwarding

end Gatehouse.Forward

namespace Gatehouse

open Http Url Chain Forward Exchange

variable {β : Type}

/-- What a server asks its backend for is what its forwarder makes of the URI that came
in, whatever the layers in between have done to the request. -/
theorem Server.uriFor?_of_mem_meetings {files : Files.Disk} {choose : Cache.Chooser}
    {v : Server} {l : Line β} {r out : Request} {s : Scene β}
    (h : out ∈ meetings (v.serve (world files choose) (dial (noting l))) r s) :
    v.forwarder.target.uriFor? r.uri = some out.uri := by
  obtain ⟨q, honward, hout⟩ := Server.outgoing_of_mem_meetings h
  obtain ⟨uri, huri, rfl⟩ := Option.map_eq_some_iff.mp hout
  rw [← (Plan.rest_of_onward honward).2.1]
  exact huri

/-- **The client does not choose where its request goes.** Take any text that is a
destination. It is a URL with a host and a port, whose path is a base and slashes at
its end. Whatever a client writes as its request URI, if it can be read at all, there
is a URI to ask for: its scheme is `http`, its authority is that host and that port,
and its path and query are the base and, behind it, the path and query of the request,
or `/` if it has none.

For any request, be its URI read or not, a forwarder to this destination meets the
backend once and with that URI. Only if there is none it does not meet the backend at
all, and tells the client that the request was bad. Nor does a server around it, with
whatever layers, ask its backend for anything else. -/
theorem Server.serve_destination {text : String} {t : Target} (h : Target.parse text = .ok t) :
    ∃ url host port base slashes,
      Url.parse text = .ok url ∧ url.host = some host ∧ url.effectivePort? = some port
      ∧ url.path = base ++ List.replicate slashes '/' ∧ base.getLast? ≠ some '/'
      ∧ (∀ raw u, Uri.parse? raw = some u →
        t.uriFor? u = some ⟨some "http",
          some (String.ofList (host.toChars ++ ':' :: Nat.toDigits 10 port)),
          some (String.ofList base ++ u.targetOrRoot)⟩)
      ∧ (∀ f : Forwarder, f.target = t → ∀ files choose (l : Line β) r s,
        (meetings (f.forward (world files choose) (dial (noting l))) r s).map Request.uri
            = (t.uriFor? r.uri).toList
          ∧ (t.uriFor? r.uri = none →
            (f.forward (world files choose) (dial l) r s).1
              = .ok (.text .badRequest "Bad request")))
      ∧ ∀ v : Server, v.forwarder.target = t → ∀ files choose (l : Line β) r s,
        ∀ out ∈ meetings (v.serve (world files choose) (dial (noting l))) r s,
          t.uriFor? r.uri = some out.uri := by
  obtain ⟨url, host, port, hurl, hhost, hport, rfl⟩ := Target.exists_url_of_parse h
  obtain ⟨slashes, hpath⟩ := exists_eq_withoutTrailingSlashes_append url.path
  have hbase : ∀ c ∈ withoutTrailingSlashes url.path, Uri.isPathChar c = true := by
    intro c hc
    refine isPathChar_of_mem_path hurl (hhost ▸ Option.some_ne_none host)
      (hport ▸ Option.some_ne_none port) c ?_
    rw [hpath]
    exact List.mem_append_left _ hc
  refine ⟨url, host, port, withoutTrailingSlashes url.path, slashes, hurl, hhost, hport, hpath,
    getLast?_withoutTrailingSlashes url.path, fun raw u hu => ?_,
    fun f hf files choose l r s => ⟨?_, fun huri => ?_⟩, fun v hv files choose l r s out hout => ?_⟩
  · exact Target.uriFor?_of_parse (by rwa [String.toList_ofList]) hu
  · rw [← hf]
    exact uris_meetings_forward files choose f l r s
  · rw [← hf] at huri
    exact forward_of_unusable files choose f huri s
  · rw [← hv]
    exact Server.uriFor?_of_mem_meetings hout

/-- **A client that names a host of its own**, and a user, has its query put behind the
base path. -/
theorem Server.serve_destination_elsewhere :
    Target.parse "http://backend:8080/app//" = .ok ⟨"backend:8080", "/app"⟩
      ∧ ∃ u, Uri.parse? "https://user@evil.example:1?/../q" = some u
        ∧ (meetings ((⟨⟨"backend:8080", "/app"⟩, false, none⟩ : Forwarder).forward
            (world .empty fun _ => 0) (dial (noting answering)))
            { visit .get with uri := u } opening).map Request.uri
          = [⟨some "http", some "backend:8080", some "/app?/../q"⟩] := by
  have hparse : Target.parse "http://backend:8080/app//" = .ok ⟨"backend:8080", "/app"⟩ := by
    decide +kernel
  obtain ⟨-, -, -, -, -, -, -, -, -, -, -, hforward, -⟩ :=
    Server.serve_destination (β := Nat) hparse
  refine ⟨hparse, ⟨some "https", some "user@evil.example:1", some "?/../q"⟩, by decide +kernel, ?_⟩
  rw [(hforward _ rfl _ _ _ _ _).1]
  decide +kernel

end Gatehouse
