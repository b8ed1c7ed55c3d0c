import Gatehouse.Proofs.Address.Written
import Gatehouse.Proofs.Forward.Delivery

/-!
# An account that the client has no part in

A forwarder tells the backend who has asked, for which host and by which
protocol. A client can send headers of the same names, and where these are
not trusted nothing of them may arrive. That is a statement about two
requests: if they differ in the three headers only, the backend meets the
same request twice, whatever the client has written there and however often.

What the backend meets instead is said as well, because a forwarder that sent
no account at all would satisfy the statement about two requests. The peer of
the connection comes first and alone, the protocol is `http`, and the host is
the one that the backend is asked for.
-/

namespace Gatehouse.Http

/-- **Requests that differ in headers of some names at most.** Headers of
different names have no order among them. -/
structure Request.AlikeBut (names : List String) (r r' : Request) : Prop where
  method : r.method = r'.method
  uri : r.uri = r'.uri
  body : r.body = r'.body
  peer : r.peer = r'.peer
  country : r.country = r'.country
  values : ∀ name ∉ names, r.headers.values name = r'.headers.values name

namespace Headers

/-- Erasing names leaves the fields of other names, in their order. -/
theorem eraseAll_eq (h : Headers) (names : List String) :
    h.eraseAll names = ⟨h.fields.filter (·.name ∉ names)⟩ := by
  induction names generalizing h with
  | nil => simp [eraseAll]
  | cons n ns ih =>
    show (h.erase n).eraseAll ns = _
    rw [ih]
    unfold erase
    rw [List.filter_filter]
    congr 1
    refine List.filter_congr fun f _ => ?_
    simp [Bool.and_comm]

/-- Names can be erased in any order. -/
theorem eraseAll_comm (h : Headers) (ms ns : List String) :
    (h.eraseAll ms).eraseAll ns = (h.eraseAll ns).eraseAll ms := by
  rw [eraseAll_eq, eraseAll_eq, eraseAll_eq, eraseAll_eq, List.filter_filter,
    List.filter_filter]
  congr 1
  exact List.filter_congr fun f _ => Bool.and_comm _ _

/-- What is left when names are erased has the values of all other names. -/
theorem values_eq_of_eraseAll_eq {h h' : Headers} {names : List String} {name : String}
    (heq : h.eraseAll names = h'.eraseAll names) (hname : name ∉ names) :
    h.values name = h'.values name := by
  have hvalues : (h.eraseAll names).values name = (h'.eraseAll names).values name := by
    rw [heq]
  rwa [values_eraseAll, values_eraseAll, if_neg hname, if_neg hname] at hvalues

end Headers

end Gatehouse.Http

namespace Gatehouse.Forward

open Http Chain Exchange

variable {β : Type}

/-! ## The three headers -/

section Origin

variable {h h' : Headers} {name : String}

/-- A default is taken where there is nothing. -/
theorem values_withDefault_of_nil (value : Option Bytes) (hnil : h.values name = []) :
    (withDefault h name value).values name = value.toList := by
  have habsent : ¬ h.contains name = true := by
    rw [Headers.contains_eq_true_iff, hnil]
    exact fun hne => hne rfl
  unfold withDefault
  rw [if_neg habsent]
  cases value with
  | none => exact hnil
  | some v => rw [Headers.values_insert, if_pos rfl, Option.toList_some]

/-- A trail begins with the peer where there is none. -/
theorem values_withTrail_of_nil (peer : Option Endpoint)
    (hnil : h.values Country.forwardedFor = []) :
    (withTrail h peer).values Country.forwardedFor
      = (peer.map fun p => Bytes.ofString p.address.toText).toList := by
  cases peer with
  | none => exact hnil
  | some p =>
    have htrail : extendTrail h p.address = p.address.toText := by
      unfold extendTrail Headers.text? Headers.get?
      rw [hnil]
      rfl
    unfold withTrail
    dsimp only
    rw [htrail, fieldValue?_toText, Headers.values_insert, if_pos rfl]
    rfl

/-- **The account that a forwarder gives of its own**: the address of the
peer, the first host of the request and the protocol, or nothing where there
is no peer or no host. -/
theorem values_withOrigin_of_nil (peer : Option Endpoint)
    (hnil : ∀ name ∈ originNames, h.values name = []) :
    (withOrigin h peer true).values Country.forwardedFor
        = (peer.map fun p => Bytes.ofString p.address.toText).toList
      ∧ (withOrigin h peer true).values forwardedHost = (h.get? "host").toList
      ∧ (withOrigin h peer true).values forwardedProto = [Bytes.ofString "http"] := by
  have htrail := values_withTrail_of_nil peer (hnil _ (by decide))
  have hhost : (withTrail h peer).get? "host" = h.get? "host" := by
    unfold Headers.get?
    rw [values_withTrail peer (by decide)]
  have hnoHost : (withTrail h peer).values forwardedHost = [] := by
    rw [values_withTrail peer (by decide), hnil _ (by decide)]
  have hnoProto : (withDefault (withTrail h peer) forwardedHost (h.get? "host")).values
      forwardedProto = [] := by
    rw [values_withDefault _ (by decide), values_withTrail peer (by decide),
      hnil _ (by decide)]
  -- each of the three is written over what the ones before have left
  have hwritten : withOrigin h peer true
      = withDefault (withDefault (withTrail h peer) forwardedHost (h.get? "host"))
          forwardedProto (some (Bytes.ofString "http")) := by
    rw [← hhost]
    rfl
  rw [hwritten]
  refine ⟨?_, ?_, values_withDefault_of_nil _ hnoProto⟩
  · rw [values_withDefault _ (by decide), values_withDefault _ (by decide), htrail]
  · rw [values_withDefault _ (by decide), values_withDefault_of_nil _ hnoHost]

/-- Where nothing is trusted, an account begins as where there is nothing to
trust. -/
theorem withOrigin_untrusted (h : Headers) (peer : Option Endpoint) :
    withOrigin h peer false = withOrigin (h.eraseAll originNames) peer true := rfl

theorem values_withOrigin_untrusted (h : Headers) (peer : Option Endpoint) :
    (withOrigin h peer false).values Country.forwardedFor
        = (peer.map fun p => Bytes.ofString p.address.toText).toList
      ∧ (withOrigin h peer false).values forwardedHost = (h.get? "host").toList
      ∧ (withOrigin h peer false).values forwardedProto = [Bytes.ofString "http"] := by
  have hnil : ∀ name ∈ originNames, (h.eraseAll originNames).values name = [] := by
    intro name hname
    rw [Headers.values_eraseAll, if_pos hname]
  have hhost : (h.eraseAll originNames).get? "host" = h.get? "host" := by
    unfold Headers.get?
    rw [Headers.values_eraseAll, if_neg (by decide)]
  rw [withOrigin_untrusted, ← hhost]
  exact values_withOrigin_of_nil peer hnil

/-- What a client writes under the three names is erased first, so it is all
the same whether it was there. -/
theorem withOrigin_withoutHops_congr (peer : Option Endpoint)
    (heq : h.eraseAll originNames = h'.eraseAll originNames) :
    withOrigin (withoutHops h) peer false = withOrigin (withoutHops h') peer false := by
  have hconnection : h.values "connection" = h'.values "connection" :=
    Headers.values_eq_of_eraseAll_eq heq (by decide)
  have hrest : (withoutHops h).eraseAll originNames
      = (withoutHops h').eraseAll originNames := by
    unfold withoutHops
    rw [Headers.eraseAll_comm, heq, Headers.eraseAll_comm, declaredHops_congr hconnection]
  rw [withOrigin_untrusted, withOrigin_untrusted, hrest]

end Origin

/-! ## What goes out -/

section Outgoing

variable {f : Forwarder} {r r' : Request}

/-- **Of requests that differ in the three headers the same goes out.** -/
theorem outgoing?_alike (htrust : f.trustIncoming = false)
    (h : r.AlikeBut originNames r') :
    Option.Rel (Request.AlikeBut []) (f.outgoing? r) (f.outgoing? r') := by
  unfold Forwarder.outgoing?
  rw [h.uri, htrust]
  cases f.target.uriFor? r'.uri with
  | none => exact .none
  | some uri =>
    refine .some ⟨h.method, rfl, h.body, h.peer, h.country, fun name _ => ?_⟩
    have hhops : declaredHops r.headers = declaredHops r'.headers :=
      declaredHops_congr (h.values "connection" (by decide))
    have hstripped {name : String} (hname : name ∉ originNames) :
        (withoutHops r.headers).values name = (withoutHops r'.headers).values name := by
      rw [values_withoutHops, values_withoutHops, hhops, h.values name hname]
    show (withOrigin (withoutHops r.headers) r.peer false).values name
      = (withOrigin (withoutHops r'.headers) r'.peer false).values name
    by_cases hname : name ∈ originNames
    · have hhost : (withoutHops r.headers).get? "host"
          = (withoutHops r'.headers).get? "host" := by
        unfold Headers.get?
        rw [hstripped (by decide)]
      obtain ⟨htrail, hforHost, hproto⟩ :=
        values_withOrigin_untrusted (withoutHops r.headers) r.peer
      obtain ⟨htrail', hforHost', hproto'⟩ :=
        values_withOrigin_untrusted (withoutHops r'.headers) r'.peer
      rcases List.mem_cons.mp hname with rfl | hname
      · rw [htrail, htrail', h.peer]
      · rcases List.mem_pair.mp hname with rfl | rfl
        · rw [hforHost, hforHost', hhost]
        · rw [hproto, hproto']
    · rw [values_withOrigin _ _ hname, values_withOrigin _ _ hname, hstripped hname]

/-- If the rest comes in the same order, the very same request goes out. -/
theorem outgoing?_eq (htrust : f.trustIncoming = false) (h : r.AlikeBut originNames r')
    (hrest : r.headers.eraseAll originNames = r'.headers.eraseAll originNames) :
    f.outgoing? r = f.outgoing? r' := by
  obtain ⟨method, uri, headers, body, peer, country⟩ := r
  obtain ⟨method', uri', headers', body', peer', country'⟩ := r'
  obtain ⟨rfl, rfl, rfl, rfl, rfl, -⟩ := h
  unfold Forwarder.outgoing?
  rw [htrust]
  dsimp only
  rw [withOrigin_withoutHops_congr peer hrest]

end Outgoing

/-- Related options are related lists. -/
theorem forall₂_toList {α γ : Type} {R : α → γ → Prop} {x : Option α} {y : Option γ}
    (h : Option.Rel R x y) : List.Forall₂ R x.toList y.toList := by
  cases h with
  | none => exact .nil
  | some hab => exact .cons hab .nil

/-- A backend behind a forwarder meets what goes out, once. -/
theorem meetings_handle (files : Files.Disk) (choose : Cache.Chooser) (f : Forwarder)
    (l : Line β) (r : Request) (s : Scene β) :
    meetings (f.handle (world files choose) (dial (noting l))) r s
      = (if Forwarder.hasPath r then f.outgoing? r else none).toList :=
  ((passes_handle files choose f _).meetings_eq (notes_dial l) r s).resolve_right And.left

/-- **Nothing that a client claims of its origin arrives** where incoming
claims are not trusted. Take two requests from the same peer that differ in
their `X-Forwarded-For`, `X-Forwarded-Host` and `X-Forwarded-Proto` values
only, and let the line and the scene be any: the backend meets two requests
that are alike in every part and in the values of every header, or it meets
neither. If the other headers have come in the same order as well, it meets
the very same request. What it is told instead is the address of the peer,
where there is one, the protocol `http`, and the first host that has not
ended with the connection, if any. -/
theorem Forwarder.handle_untrusted (f : Forwarder) (files : Files.Disk)
    (choose : Cache.Chooser) (l : Line β) (s : Scene β) (htrust : f.trustIncoming = false) :
    let met := fun r => meetings (f.handle (world files choose) (dial (noting l))) r s
    (∀ r r' : Request, r.AlikeBut originNames r' →
      List.Forall₂ (Request.AlikeBut []) (met r) (met r')
      ∧ (r.headers.eraseAll originNames = r'.headers.eraseAll originNames →
        met r = met r'))
    ∧ ∀ r, ∀ out ∈ met r,
      out.headers.values Country.forwardedFor
        = (r.peer.map fun p => Bytes.ofString p.address.toText).toList
      ∧ out.headers.values forwardedProto = [Bytes.ofString "http"]
      ∧ out.headers.values forwardedHost = ((withoutHops r.headers).get? "host").toList := by
  intro met
  have hmet (r : Request) :
      met r = (if Forwarder.hasPath r then f.outgoing? r else none).toList :=
    meetings_handle files choose f l r s
  refine ⟨fun r r' h => ?_, fun r out hout => ?_⟩
  · have hpath : Forwarder.hasPath r = Forwarder.hasPath r' := by
      unfold Forwarder.hasPath
      rw [h.uri]
    rw [hmet, hmet, hpath]
    by_cases hhas : Forwarder.hasPath r' = true
    · rw [if_pos hhas, if_pos hhas]
      exact ⟨forall₂_toList (outgoing?_alike htrust h), fun hrest => by
        rw [outgoing?_eq htrust h hrest]⟩
    · rw [if_neg hhas, if_neg hhas]
      exact ⟨.nil, fun _ => rfl⟩
  · rw [hmet, Option.mem_toList] at hout
    split at hout
    · obtain ⟨uri, -, rfl⟩ := Option.map_eq_some_iff.mp hout
      rw [htrust]
      obtain ⟨htrail, hhost, hproto⟩ :=
        values_withOrigin_untrusted (withoutHops r.headers) r.peer
      exact ⟨htrail, hproto, hhost⟩
    · cases hout

/-- A visit to a host, with an account of where it comes from. -/
def telling (account : List Field) : Request :=
  { visit .get with headers := ⟨⟨"host", Bytes.ofString "a.example"⟩ :: account⟩ }

/-- A client that claims to be another, twice, at another host. -/
def forged : Request :=
  telling [⟨Country.forwardedFor, Bytes.ofString "10.0.0.1"⟩,
    ⟨forwardedHost, Bytes.ofString "b.example"⟩,
    ⟨Country.forwardedFor, Bytes.ofString "::1"⟩, ⟨forwardedProto, Bytes.ofString "https"⟩]

/-- It is met as if it had claimed nothing. -/
theorem Forwarder.handle_untrusted_forged :
    let met := fun r => meetings (germanGate.forwarder.handle (world .empty fun _ => 0)
      (dial (noting answering))) r opening
    germanGate.forwarder.trustIncoming = false ∧ met forged = met (telling [])
      ∧ ∃ out ∈ met forged,
        out.headers.values Country.forwardedFor = [Bytes.ofString "203.0.113.1"]
        ∧ out.headers.values forwardedProto = [Bytes.ofString "http"]
        ∧ out.headers.values forwardedHost = [Bytes.ofString "a.example"] := by
  intro met
  obtain ⟨halike, haccount⟩ := Forwarder.handle_untrusted germanGate.forwarder .empty
    (fun _ => 0) answering opening rfl
  have hrest : forged.headers.eraseAll originNames
      = (telling []).headers.eraseAll originNames := by
    decide +kernel
  have hdiffer : forged.AlikeBut originNames (telling []) :=
    ⟨rfl, rfl, rfl, rfl, rfl, fun _ hname => Headers.values_eq_of_eraseAll_eq hrest hname⟩
  obtain ⟨out, hout⟩ : ∃ out, out ∈ met forged := by
    refine List.exists_mem_of_length_pos ?_
    rw [show met forged = _ from meetings_handle ..]
    decide +kernel
  obtain ⟨htrail, hproto, hhost⟩ := haccount forged out hout
  refine ⟨rfl, (halike forged (telling []) hdiffer).2 hrest, out, hout, htrail.trans ?_,
    hproto, hhost.trans ?_⟩
  · decide +kernel
  · decide +kernel

end Gatehouse.Forward
