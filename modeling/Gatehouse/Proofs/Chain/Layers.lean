import Gatehouse.Chain.Assembly
import Gatehouse.Proofs.Chain.Run

/-!
# The layers of a chain as programs

A layer has branches of its own, and in some of them it answers early. Said in
one line, it makes a request of the one that came in, makes a response of what
the next handler says about that, and writes something into the records. The
equations here say so (`requestStart_eq`, `bodyLimit_eq`, `countryGuard_eq`,
`sendfile_eq`, `compression_eq`): what is made of a request and of a response
are functions of their own, and what is written is a `Notes`.

Which request a backend is asked about, whether there is an answer, and what
stands in the records afterwards, are read off these equations. No proof about
a chain looks into the branches of these layers again.
-/

namespace Gatehouse.Chain

open Http Cache Country Exchange

variable {β : Type}

/-! ## Notes -/

/-- **What is written into the records**: events, the latest first, and the
counters that are incremented. -/
structure Notes where
  events : List Event
  counters : List Counter
deriving DecidableEq, Inhabited

/-- Nothing to write down. -/
def Notes.none : Notes := ⟨[], []⟩

/-- The scene with more in its records. -/
def Scene.noted (s : Scene β) (n : Notes) : Scene β :=
  { s with
    log := n.events ++ s.log
    metrics := n.counters.foldl Metrics.increment s.metrics }

/-- Writes something down. -/
def Exchange.note (n : Notes) : Exchange β Unit := fun s => (.ok (), s.noted n)

/-! ## Requests on their way in -/

section Requests

variable {millis : Nat} {r : Request} {name : String}

/-- The request with a stamp of its start, if it had none. -/
def stamped (millis : Nat) (r : Request) : Request :=
  if r.headers.contains startHeader then r
  else { r with
    headers := r.headers.insert startHeader (Bytes.ofString ("t=" ++ toString millis)) }

theorem values_stamped (hname : name ≠ startHeader) :
    (stamped millis r).headers.values name = r.headers.values name := by
  unfold stamped
  split
  · rfl
  · rw [Headers.values_insert, if_neg (Ne.symm hname)]

/-- The request with the offer to serve files. -/
def offering (r : Request) : Request :=
  { r with headers := r.headers.insert sendfileType (Bytes.ofString "X-Sendfile") }

theorem values_offering (r : Request) (name : String) :
    (offering r).headers.values name
      = if sendfileType = name then [Bytes.ofString "X-Sendfile"]
        else r.headers.values name :=
  Headers.values_insert _ _ _ _

theorem text?_offering (r : Request) (hname : name ≠ sendfileType) :
    (offering r).headers.text? name = r.headers.text? name := by
  unfold Headers.text? Headers.get?
  rw [values_offering, if_neg (Ne.symm hname)]

end Requests

section Layers

variable (files : Files.Disk) (choose : Chooser) (next : Handler (Exchange β))

theorem requestStart_eq (r : Request) :
    requestStart (world files choose) next r = (do
      let millis ← (world files choose).millis
      next (stamped millis r)) := by
  unfold requestStart stamped
  split <;> rfl

/-! ## Limits -/

/-- The request with its body cut to a limit, unless it announces more. -/
def curtail (limit : Nat) (r : Request) : Option Request :=
  match declaredLength? r with
  | some n => if n > limit then none else some { r with body := r.body.limited (min limit n) }
  | none => some { r with body := r.body.limited limit }

/-- How much of a body can be read under a limit: no more than was announced
for it. -/
def allowance (limit : Nat) (r : Request) : Nat :=
  match declaredLength? r with
  | some n => min limit n
  | none => limit

/-- A body limit answers itself where nothing is handed on. -/
theorem bodyLimit_eq (limit : Nat) (r : Request) :
    bodyLimit limit next r = match curtail limit r with
      | some q => next q
      | none => pure (.text .contentTooLarge "length limit exceeded") := by
  unfold bodyLimit curtail
  cases declaredLength? r with
  | none => rfl
  | some n =>
    dsimp only
    by_cases hover : n > limit
    · rw [if_pos hover, if_pos hover]
    · rw [if_neg hover, if_neg hover]

/-! ## The filter -/

/-- **Whether a request is turned away**: its client has an address, and
the verdict on the address is a denial. -/
def Denied (f : Filter) (r : Request) : Prop :=
  ∃ address, clientAddress r.headers r.peer = some address
    ∧ (f.evaluate address).isDenied = true

instance (f : Filter) (r : Request) : Decidable (Denied f r) :=
  decidable_of_iff
    ((clientAddress r.headers r.peer).any fun a => (f.evaluate a).isDenied)
    (Option.any_eq_true ..)

/-- A request with the country of its client, in the header that is for it
and beside the request. A code that cannot stand in a header is left out. -/
def withCountry (r : Request) (code : String) : Request :=
  if (Bytes.ofString code).all isValueByte then
    { r with
      headers := r.headers.insert countryHeader (Bytes.ofString code)
      country := some code }
  else r

/-- **A request as the filter passes it on**: with the code that the verdict
on its client brings along, if there is one. -/
def admitted (f : Filter) (r : Request) : Request :=
  match clientAddress r.headers r.peer with
  | none => r
  | some address =>
    match Verdict.annotation (f.evaluate address) with
    | none => r
    | some code => withCountry r code

/-! What the filter makes of a request is read off the address of its client. -/

section Reading

variable {f : Filter} {r : Request} {address : Address}

/-- Nobody is turned away without an address. -/
theorem not_denied_of_none (h : clientAddress r.headers r.peer = none) :
    ¬ Denied f r := by
  rintro ⟨address, ha, -⟩
  rw [h] at ha
  cases ha

theorem admitted_of_none (h : clientAddress r.headers r.peer = none) :
    admitted f r = r := by
  unfold admitted
  rw [h]

theorem denied_iff_of_some (h : clientAddress r.headers r.peer = some address) :
    Denied f r ↔ (f.evaluate address).isDenied = true := by
  unfold Denied
  rw [h]
  simp

theorem admitted_of_some (h : clientAddress r.headers r.peer = some address) :
    admitted f r = match Verdict.annotation (f.evaluate address) with
      | none => r
      | some code => withCountry r code := by
  unfold admitted
  rw [h]

end Reading

/-- The filter looks at a request and changes two of its fields. -/
theorem exists_admitted_eq (f : Filter) (r : Request) :
    ∃ headers country, admitted f r = { r with headers := headers, country := country } := by
  unfold admitted
  split
  · exact ⟨_, _, rfl⟩
  · split
    · exact ⟨_, _, rfl⟩
    · unfold withCountry
      split <;> exact ⟨_, _, rfl⟩

theorem method_admitted (f : Filter) (r : Request) :
    (admitted f r).method = r.method := by
  obtain ⟨headers, country, h⟩ := exists_admitted_eq f r
  rw [h]

/-- The request as a filter lets it pass, if it does. -/
def screen (f : Filter) (r : Request) : Option Request :=
  if Denied f r then none else some (admitted f r)

theorem screen_of_denied {f : Filter} {r : Request} (h : Denied f r) :
    screen f r = none := if_pos h

theorem screen_of_not_denied {f : Filter} {r : Request} (h : ¬ Denied f r) :
    screen f r = some (admitted f r) := if_neg h

/-- What there is to note about a verdict. -/
def verdictNotes (address : Address) (v : Verdict) : Notes :=
  match v with
  | .unknown => ⟨[.noRecord address], [.decisions v.label]⟩
  | .lookupFailed e => ⟨[.lookupFailed address e], [.lookupErrors, .decisions v.label]⟩
  | _ => ⟨[], [.decisions v.label]⟩

/-- The event of a verdict that has consequences. -/
def consequence (f : Filter) (address : Address) (v : Verdict) : List Event :=
  match v with
  | .denied country list => [.blocked country address list f.policy.countries]
  | v =>
    match v.annotation with
    | some code =>
      if (Bytes.ofString code).all isValueByte then [] else [.countryUnwritable code]
    | none => []

/-- **What a filter notes about a request.** -/
def screenNotes (f : Filter) (r : Request) : Notes :=
  match clientAddress r.headers r.peer with
  | none => ⟨[.addressUnreadable], []⟩
  | some address =>
    let v := f.evaluate address
    let n := verdictNotes address v
    ⟨consequence f address v ++ n.events, n.counters⟩

theorem noteVerdict_eq (address : Address) (v : Verdict) :
    noteVerdict (world files choose) address v
      = (note (verdictNotes address v) : Exchange β Unit) := by
  cases v <;> rfl

/-- **A filter** notes its verdict and lets a request pass or not. -/
theorem countryGuard_eq (f : Filter) (r : Request) :
    countryGuard (world files choose) f next r = (do
      note (screenNotes f r)
      match screen f r with
      | some q => next q
      | none => return accessDenied) := by
  unfold countryGuard screenNotes
  cases hc : clientAddress r.headers r.peer with
  | none =>
    rw [screen_of_not_denied (not_denied_of_none hc), admitted_of_none hc]
    rfl
  | some address =>
    have hden := denied_iff_of_some (f := f) hc
    have hadm := admitted_of_some (f := f) hc
    dsimp only
    rw [noteVerdict_eq]
    cases hv : f.evaluate address with
    | denied country list =>
      rw [hv] at hden
      rw [screen_of_denied (hden.mpr rfl)]
      rfl
    | allowed country =>
      rw [hv] at hden hadm
      rw [screen_of_not_denied (fun h => Bool.false_ne_true (hden.mp h)), hadm]
      by_cases hempty : country = ""
      · subst hempty
        rfl
      · have hcode : Verdict.annotation (.allowed country) = some country := if_neg hempty
        unfold consequence
        dsimp only
        rw [hcode]
        unfold annotate? fieldValue? withCountry
        by_cases hvalue : (Bytes.ofString country).all isValueByte = true
        · simp only [if_pos hvalue]
          rfl
        · simp only [if_neg hvalue]
          rfl
    | trusted | lookupFailed | unknown =>
      rw [hv] at hden hadm
      rw [screen_of_not_denied (fun h => Bool.false_ne_true (hden.mp h)), hadm]
      rfl

/-! ## Files -/

/-- **The answer of a file server** for one path. -/
def fileAnswer (files : Files.Disk) (method : Method) (range : Option String)
    (path : String) : Response :=
  if method = Method.get || method = Method.head then
    match files.openPath path with
    | .missing => .bare .notFound
    | .failed => .bare .internalServerError
    | .found n modified => openedResponse method range path n modified
  else (Response.bare .methodNotAllowed).withHeader "allow" (Bytes.ofString "GET,HEAD")

/-- **The milliseconds that a file server takes** for one path. -/
def fileDelay (files : Files.Disk) (method : Method) (path : String) : Nat :=
  if method = Method.get || method = Method.head then files.delay path else 0

/-- **The path in a value** of the header for it: text, and not empty. -/
def pathIn? (v : Bytes) : Option String := v.text?.filter (· ≠ "")

/-- **What becomes of a response** where files are served. The first value that
names a file counts. -/
def filed (files : Files.Disk) (r : Request) (a : Response) : Response :=
  match a.headers.get? sendfileHeader with
  | none => a
  | some v =>
    match pathIn? v with
    | some path =>
      merge (fileAnswer files r.method (r.headers.text? "range") path)
        (a.headers.erase sendfileHeader)
    | none => .bare .internalServerError

/-- What is noted about it. -/
def fileNotes (a : Response) : Notes :=
  match a.headers.get? sendfileHeader with
  | none => .none
  | some v =>
    match pathIn? v with
    | some path => ⟨[.sendfileServing path], []⟩
    | none => ⟨[.sendfileInvalid], []⟩

/-- **The milliseconds that it takes**, which are those of the file server. -/
def filingDelay (files : Files.Disk) (r : Request) (a : Response) : Nat :=
  match a.headers.get? sendfileHeader with
  | none => 0
  | some v =>
    match pathIn? v with
    | some path => fileDelay files r.method path
    | none => 0

theorem fileResponse_eq (method : Method) (range : Option String) (path : String) :
    fileResponse (world files choose) method range path = (do
      sleep (fileDelay files method path)
      return fileAnswer files method range path : Exchange β Response) := by
  unfold fileResponse fileDelay fileAnswer
  split
  · show (openFile files path >>= _ : Exchange β Response) = _
    unfold openFile
    rw [bind_assoc]
    refine bind_congr fun _ => ?_
    rw [pure_bind]
    cases files.openPath path <;> rfl
  · rw [sleep_zero, pure_bind]

/-- **Serving files** takes nothing from the response but the path, and the
time to open it. -/
theorem sendfile_eq (r : Request) :
    sendfile (world files choose) next r = (do
      let a ← next (offering r)
      note (fileNotes a)
      sleep (filingDelay files (offering r) a)
      return filed files (offering r) a) := by
  have hmethod : (offering r).method = r.method := rfl
  refine bind_congr fun a => ?_
  unfold fileNotes filingDelay filed pathIn?
  rw [text?_offering r (by decide), hmethod]
  cases a.headers.get? sendfileHeader with
  | none => simp only [sleep_zero, pure_bind]; rfl
  | some v =>
    dsimp only
    cases v.text?.filter (· ≠ "") with
    | none => simp only [sleep_zero, pure_bind]; rfl
    | some path =>
      dsimp only
      rw [fileResponse_eq, bind_assoc]
      rfl

/-! ## Compression -/

/-- **What compression makes of a response** for a client with these headers. -/
def encoded (h : Headers) (a : Response) : Response :=
  if isEligible a then
    match Coding.preferred h with
    | .gzip => compress { a with headers := markVarying a.headers }
    | .identity => { a with headers := markVarying a.headers }
  else a

/-- Compression looks at one header of the request. -/
theorem encoded_congr {h h' : Headers} (a : Response)
    (heq : h.values "accept-encoding" = h'.values "accept-encoding") :
    encoded h a = encoded h' a := by
  unfold encoded Coding.preferred
  rw [heq]

theorem compression_eq (r : Request) :
    compression next r = (do
      let a ← next r
      return encoded r.headers a) := by
  refine bind_congr fun a => ?_
  unfold encoded
  dsimp only
  split
  · cases Coding.preferred r.headers <;> rfl
  · rfl

end Layers

/-! ## Time -/

/-- **Whether the time for a request is over before anything has begun**: the
plan grants none, and the clock is at a whole millisecond. -/
def Plan.Overdue (p : Plan) (now : Instant) : Prop := granted p.requestSecs now = 0

instance (p : Plan) (now : Instant) : Decidable (p.Overdue now) :=
  inferInstanceAs (Decidable (_ = 0))

theorem Plan.overdue_iff {p : Plan} {now : Instant} :
    p.Overdue now ↔ p.requestSecs = 0 ∧ now.nanos % 1000000 = 0 := by
  unfold Overdue granted
  split
  · next hwhole => simp [hwhole]
  · next hbegun => simp [hbegun]

theorem Plan.not_overdue_of_pos {p : Plan} (h : 0 < p.requestSecs) (now : Instant) :
    ¬ p.Overdue now :=
  fun hover => Nat.ne_of_gt h (Plan.overdue_iff.mp hover).1

/-! ## The parts of a chain -/

/-- **The interior of a chain**: the layers behind the filter. -/
def Plan.interior {m : Type → Type} [Monad m] (p : Plan) (w : World m)
    (inner : Handler m) : Handler m :=
  wrapIf (decide (p.maxRequestBody > 0)) (bodyLimit p.maxRequestBody)
    (wrapIf p.gzipCompression compression
      (requestStart w
        (wrapIf p.xSendfile (sendfile w)
          (wrapIf p.cacheEnabled (caching w) inner))))

/-- **The exterior of a chain**: the layers in front of the filter. -/
def Plan.exterior {m : Type → Type} [Monad m] (p : Plan) (w : World m)
    (h : Handler m) : Handler m :=
  trace w (wrapIf p.logRequests (requestLog w) (timeout w p.requestSecs h))

/-- A chain without a filter is its exterior around its interior. -/
theorem Plan.build_noFilter {m : Type → Type} [Monad m] (p : Plan) (w : World m)
    (inner : Handler m) :
    { p with filter := none }.build w inner
      = p.exterior w (p.interior w inner) := rfl

/-- A chain with a filter has it between the two. -/
theorem Plan.build_filter {m : Type → Type} [Monad m] (p : Plan)
    (f : Country.Filter) (w : World m) (inner : Handler m) :
    { p with filter := some f }.build w inner
      = p.exterior w (countryGuard w f (p.interior w inner)) := rfl

end Gatehouse.Chain
