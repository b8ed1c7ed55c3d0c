import Gatehouse.Proofs.Chain.Guard
import Gatehouse.Proofs.Chain.Caching
import Gatehouse.Proofs.Chain.Journey
import Gatehouse.Proofs.Chain.Provenance

/-!
# Files are served at the backend's request

A backend names a file in a header of its response. The client is to get the
file and not the name, and no client is to get a file otherwise. What stands
between the two is one layer. Behind it may be a cache, which stores responses
with the names in them, so that the name may have been given to somebody else.

Both are read off from `Plan.serve_fst`. What there is from inside
(`Plan.fromInside?`) is the answer of the innermost handler or a replay of what
is stored (`FromInside`), and nothing else chooses the file: the path is the
first value of one header of it. That no other file has a part in the answer is
said by letting the files be any (`serve_of_fromInside`). They show in the
answer through `fileAnswer` alone, which opens the one path.

To open it takes time, and the deadline of the request is still on. A file that
is not open when the time is over is not served, and the client hears that alone:
what has come from inside by then is lost to it.
-/

namespace Gatehouse.Chain

open Http Cache Country Exchange

variable {β : Type}

/-! ## Names do not leave -/

section Names

variable {name : String} {h : Headers} {a : Response}

/-- **The headers of a file's own**, which describe the body that is sent. -/
def bodyHeaders : List String := ["content-length", "content-encoding"]

/-- One field is adopted where there is none of its name, unless it describes a
body. -/
theorem values_adopt (h : Headers) (f : Field) (name : String) :
    (adopt h f).values name
      = if f.name = name ∧ name ∉ bodyHeaders ∧ h.values name = [] then [f.value]
        else h.values name := by
  unfold adopt
  split
  · next hbody =>
    rw [if_neg]
    rintro ⟨rfl, hother, -⟩
    exact hother (by simpa [bodyHeaders] using hbody)
  · next hbody =>
    split
    · next hthere =>
      rw [if_neg]
      rintro ⟨rfl, -, hnil⟩
      exact Headers.contains_eq_true_iff.mp hthere hnil
    · next hlacks =>
      have hnil : h.values f.name = [] := by
        rwa [Headers.contains_eq_true_iff, not_not] at hlacks
      rw [Headers.values_insert]
      refine if_congr ⟨?_, And.left⟩ rfl rfl
      rintro rfl
      exact ⟨rfl, by simpa [bodyHeaders] using hbody, hnil⟩

/-- **What is there stays, and what is lacking is filled in once**: of the values
of one name only the first finds the name lacking. -/
theorem values_foldl_adopt (name : String) (fields : List Field) (h : Headers) :
    (fields.foldl adopt h).values name
      = if name ∈ bodyHeaders ∨ h.values name ≠ [] then h.values name
        else (Headers.values ⟨fields⟩ name).take 1 := by
  induction fields generalizing h with
  | nil =>
    split
    · rfl
    · next hlacks => exact not_not.mp (not_or.mp hlacks).2
  | cons f rest ih =>
    have hcons : Headers.values ⟨f :: rest⟩ name
        = (if f.name = name then [f.value] else []) ++ Headers.values ⟨rest⟩ name := by
      unfold Headers.values
      by_cases hname : f.name = name <;> simp [hname]
    rw [List.foldl_cons, ih, values_adopt, hcons]
    by_cases hown : name ∈ bodyHeaders
    · simp [hown]
    by_cases hnil : h.values name = []
    · by_cases hname : f.name = name <;> simp [hown, hnil, hname]
    · simp [hnil]

/-- **The headers of a file with those of a backend**, one name at a time. -/
theorem values_merge (served : Response) (backend : Headers) (name : String) :
    (merge served backend).headers.values name
      = if name ∈ bodyHeaders ∨ served.headers.values name ≠ [] then
          served.headers.values name
        else (backend.values name).take 1 :=
  values_foldl_adopt name backend.fields served.headers

/-- A file is served without the name that it was asked for by. -/
theorem values_merge_erase (served : Response) (backend : Headers) :
    (merge served (backend.erase name)).headers.values name
      = served.headers.values name := by
  rw [values_merge, Headers.values_erase, if_pos rfl]
  split
  · rfl
  · next hlacks => exact (not_not.mp (not_or.mp hlacks).2).symm

/-- A field of another name is not noticed. -/
theorem values_append_of_ne (h : Headers) {other : String} (value : Bytes)
    (hname : other ≠ name) : (h.append other value).values name = h.values name := by
  rw [Headers.values_append, if_neg hname, List.append_nil]

/-- A response about a file does not name it. -/
theorem values_openedResponse (method : Method) (range : Option String) (path : String)
    (n : Files.Node) (modified : Nat) :
    (openedResponse method range path n modified).headers.values sendfileHeader = [] := by
  have hfile : (fileHeaders path modified).values sendfileHeader = [] := by
    unfold fileHeaders
    rw [values_append_of_ne _ _ (by decide), values_append_of_ne _ _ (by decide),
      values_append_of_ne _ _ (by decide)]
    rfl
  unfold openedResponse rangeResponse
  cases range with
  | none =>
    dsimp only
    rw [values_append_of_ne _ _ (by decide), hfile]
  | some range =>
    dsimp only
    split
    · dsimp only
      rw [values_append_of_ne _ _ (by decide), values_append_of_ne _ _ (by decide), hfile]
    · dsimp only
      rw [values_append_of_ne _ _ (by decide), hfile]
    · dsimp only
      rw [values_append_of_ne _ _ (by decide), hfile]

/-- A file server does not name files. -/
theorem values_fileAnswer (files : Files.Disk) (method : Method) (range : Option String)
    (path : String) :
    (fileAnswer files method range path).headers.values sendfileHeader = [] := by
  unfold fileAnswer
  split
  · cases files.openPath path with
    | missing | failed => rfl
    | found n modified => exact values_openedResponse method range path n modified
  · rfl

/-- **No response with a name leaves the layer that serves files.** -/
theorem values_filed (files : Files.Disk) (q : Request) (i : Response) :
    (filed files q i).headers.values sendfileHeader = [] := by
  unfold filed
  cases hget : i.headers.get? sendfileHeader with
  | none => exact List.head?_eq_none_iff.mp hget
  | some v =>
    dsimp only
    cases pathIn? v with
    | none => rfl
    | some path =>
      dsimp only
      rw [values_merge_erase, values_fileAnswer]

/-- Compression sets four headers and leaves the others. -/
theorem values_encoded (accepted : Headers) (a : Response)
    (hname : name ∉ ["vary", "accept-ranges", "content-length", "content-encoding"]) :
    (encoded accepted a).headers.values name = a.headers.values name := by
  obtain ⟨hvary, hranges, hlength, hencoding⟩ : "vary" ≠ name ∧ "accept-ranges" ≠ name
      ∧ "content-length" ≠ name ∧ "content-encoding" ≠ name := by
    simpa [eq_comm] using hname
  have hmarked : (markVarying a.headers).values name = a.headers.values name := by
    unfold markVarying
    split
    · rfl
    · exact values_append_of_ne _ _ hvary
  unfold encoded
  split
  · cases Coding.preferred accepted with
    | identity => exact hmarked
    | gzip =>
      unfold compress
      rw [Headers.values_insert, if_neg hencoding, Headers.values_erase, if_neg hlength,
        Headers.values_erase, if_neg hranges]
      exact hmarked
  · rfl

/-- The rim of a chain states lengths and leaves the other headers. -/
theorem values_conclude (method : Method) (a : Response) (hname : "content-length" ≠ name) :
    (conclude method a).headers.values name = a.headers.values name := by
  have hlength : (withLength a).headers.values name = a.headers.values name := by
    unfold withLength
    split
    · rfl
    · split
      · unfold Response.withHeader
        rw [Headers.values_insert, if_neg hname]
      · rfl
  unfold conclude
  split
  · unfold closeTunnelBody
    split <;> rfl
  · dsimp only
    split <;> exact hlength

end Names

/-! ## The response from inside -/

/-- **The response from inside** to a request, where there is one, and the
request that was handed on for it. -/
def Plan.fromInside? (p : Plan) (files : Files.Disk) (choose : Chooser)
    (inner : Handler (Exchange β)) (r : Request) (s : Scene β) :
    Option (Request × Response) :=
  if p.Overdue s.clock then none
  else match p.onward s.millis r with
    | none => none
    | some q =>
      match (p.inside (world files choose) inner q (p.ahead r s)).1 with
      | .ok i => some (q, i)
      | .error _ => none

/-- **The scene in which it is there**, with the time that is left. -/
def Plan.afterInside (p : Plan) (files : Files.Disk) (choose : Chooser)
    (inner : Handler (Exchange β)) (r q : Request) (s : Scene β) : Scene β :=
  (p.inside (world files choose) inner q (p.ahead r s)).2

/-- **Where a response from inside is from.** -/
inductive FromInside (p : Plan) (inner : Handler (Exchange β)) (q : Request)
    (s : Scene β) (i : Response) : Prop
  /-- It is what the innermost handler answers to this request. -/
  | answer {u t : Scene β} {a : Response} (hbackend : u.backend = s.backend)
      (hinner : inner q u = (.ok a, t))
      (hnames : i.headers.values sendfileHeader = a.headers.values sendfileHeader)
  /-- It is what the store has for this request. -/
  | replay {key : String} {e : Entry} (hcache : p.cacheEnabled = true)
      (hkey : key? q = some key) (hget : (s.store.get s.clock key).1 = some e)
      (hentry : i = withOutcome e.toResponse .hit)
  /-- It is an answer whose body broke off on its way into the store. -/
  | lost (hcache : p.cacheEnabled = true) (hbare : i = .bare .badGateway)

section Inside

variable {p : Plan} {files : Files.Disk} {choose : Chooser}
variable {inner : Handler (Exchange β)} {r q : Request} {s t : Scene β} {i : Response}

/-- The rule for tunnels leaves the head of a response alone. -/
theorem headers_of_tunnelRule (h : tunnelRule inner q s = (.ok i, t)) :
    ∃ a, inner q s = (.ok a, t) ∧ i.headers = a.headers := by
  unfold tunnelRule at h
  rw [bind_apply] at h
  rcases hinner : inner q s with ⟨_ | a, t'⟩
  · rw [hinner] at h
    cases h
  · rw [hinner] at h
    cases h
    refine ⟨a, rfl, ?_⟩
    split
    · unfold closeTunnelBody
      split <;> rfl
    · rfl

/-- **A response from inside is from the backend**, be it by way of the
store. -/
theorem fromInside_of_inside
    (h : p.inside (world files choose) inner q s = (.ok i, t)) :
    FromInside p inner q s i := by
  have hanswered {u t : Scene β} {a : Response} {o : CacheOutcome} {body : Body}
      (hon : HandedOn q s u) (hnext : tunnelRule inner q u = (.ok a, t)) :
      FromInside p inner q s (withOutcome { a with body := body } o) := by
    obtain ⟨a', hinner, hheaders⟩ := headers_of_tunnelRule hnext
    refine .answer hon.backend hinner ?_
    unfold withOutcome Response.withHeader
    rw [Headers.values_insert, if_neg (by decide), hheaders]
  unfold Plan.inside Plan.wrapIf at h
  split at h
  · next hcache =>
    have hcourse := caching_course files choose (tunnelRule inner) q s
    rw [h] at hcourse
    cases hcourse with
    | hit hkey hget => exact .replay hcache hkey hget rfl
    | bypassed _ hon hnext | passed _ hon hnext | kept _ hon hnext =>
      exact hanswered hon hnext
    | unbuffered => exact .lost hcache rfl
  · obtain ⟨a, hinner, hheaders⟩ := headers_of_tunnelRule h
    exact .answer rfl hinner (by rw [hheaders])

/-- What there is inside was handed on and answered. -/
theorem Plan.fromInside?_eq_some_iff :
    p.fromInside? files choose inner r s = some (q, i)
      ↔ ¬ p.Overdue s.clock ∧ p.onward s.millis r = some q
        ∧ p.inside (world files choose) inner q (p.ahead r s)
          = (.ok i, p.afterInside files choose inner r q s) := by
  unfold fromInside? afterInside
  by_cases htime : p.Overdue s.clock
  · simp [htime]
  rw [if_neg htime]
  cases hon : p.onward s.millis r with
  | none => simp
  | some q' =>
    dsimp only
    rcases hinside : p.inside (world files choose) inner q' (p.ahead r s) with ⟨e | i', t⟩
    · simp only [reduceCtorEq, Option.some.injEq, false_iff, not_and]
      rintro - rfl
      rw [hinside]
      exact nofun
    · simp only [Option.some.injEq, Prod.mk.injEq]
      constructor
      · rintro ⟨rfl, rfl⟩
        exact ⟨htime, rfl, by rw [hinside]⟩
      · rintro ⟨-, rfl, h⟩
        rw [hinside] at h
        exact ⟨rfl, Except.ok.inj (congrArg Prod.fst h)⟩

end Inside

/-! ## Serving files -/

/-- **What leaves for a response** that has come as far as compression. -/
def Plan.leaving (p : Plan) (q : Request) (a : Response) : Response :=
  conclude q.method (if p.gzipCompression then encoded q.headers a else a)

section Serving

variable {p : Plan} {files : Files.Disk} {choose : Chooser}
variable {inner : Handler (Exchange β)} {r q : Request} {s : Scene β} {a i : Response}

/-- What leaves is named as before. -/
theorem Plan.values_leaving (p : Plan) (q : Request) (a : Response) :
    (p.leaving q a).headers.values sendfileHeader = a.headers.values sendfileHeader := by
  unfold leaving
  rw [values_conclude _ _ (by decide)]
  split
  · exact values_encoded _ _ (by decide)
  · rfl

/-- What the chain answers itself names no files. -/
theorem Plan.values_ownAnswer (p : Plan) (r : Request) :
    (p.ownAnswer r).headers.values sendfileHeader = [] := by
  unfold ownAnswer
  split
  · split <;> rfl
  · rfl

/-- **What the client gets for a response from inside**, whatever files there
are when it is asked. What is inside does not look at files. -/
theorem serve_of_fromInside (hserves : p.xSendfile = true)
    (h : p.fromInside? files choose inner r s = some (q, i)) (disk : Files.Disk) :
    (p.serve (world disk choose) inner r s).1
      = .ok (if (p.afterInside files choose inner r q s).Allows (filingDelay disk q i)
        then p.leaving q (filed disk q i)
        else conclude q.method (.bare .requestTimeout)) := by
  obtain ⟨htime, hon, hinside⟩ := Plan.fromInside?_eq_some_iff.mp h
  have hsame : p.inside (world disk choose) inner q (p.ahead r s)
      = (.ok i, p.afterInside files choose inner r q s) := hinside
  have hmethod : q.method = r.method := (Plan.rest_of_onward hon).1
  have hdelay : p.filingDelay disk q i = filingDelay disk q i := if_pos hserves
  have houtward : conclude r.method (p.outward disk q i) = p.leaving q (filed disk q i) := by
    unfold Plan.leaving Plan.outward
    rw [if_pos hserves, hmethod]
  simp only [Plan.serve_fst, if_neg htime, hon, hsame, hdelay, houtward, hmethod]
  split <;> rfl

/-- What there is to get without one has to do with no files and names none. -/
theorem serve_of_no_fromInside (h : p.fromInside? files choose inner r s = none) :
    ∃ ending, (∀ disk, (p.serve (world disk choose) inner r s).1 = ending)
      ∧ ∀ a, ending = .ok a → a.headers.values sendfileHeader = [] := by
  unfold Plan.fromInside? at h
  by_cases htime : p.Overdue s.clock
  · refine ⟨.ok (conclude r.method (.bare .requestTimeout)), fun disk => ?_, ?_⟩
    · rw [Plan.serve_fst, if_pos htime]
    · rintro _ ⟨⟩
      exact values_conclude _ _ (by decide)
  rw [if_neg htime] at h
  cases hon : p.onward s.millis r with
  | none =>
    refine ⟨.ok (conclude r.method (p.ownAnswer r)), fun disk => ?_, ?_⟩
    · simp only [Plan.serve_fst, if_neg htime, hon]
    · rintro _ ⟨⟩
      rw [values_conclude _ _ (by decide), Plan.values_ownAnswer]
  | some q =>
    have hsame (disk : Files.Disk) : p.inside (world disk choose) inner q (p.ahead r s)
      = p.inside (world files choose) inner q (p.ahead r s) := rfl
    simp only [hon] at h
    rcases hinside : p.inside (world files choose) inner q (p.ahead r s) with ⟨e | i, t⟩
    · cases e with
      | timeOver =>
        refine ⟨.ok (conclude r.method (.bare .requestTimeout)), fun disk => ?_, ?_⟩
        · simp only [Plan.serve_fst, if_neg htime, hon, hsame, hinside]
        · rintro _ ⟨⟩
          exact values_conclude _ _ (by decide)
      | clockOverflow =>
        refine ⟨.error .clockOverflow, fun disk => ?_, nofun⟩
        simp only [Plan.serve_fst, if_neg htime, hon, hsame, hinside]
    · rw [hinside] at h
      cases h

/-- **No response with a name leaves a chain** that serves files. -/
theorem values_of_serve (hserves : p.xSendfile = true)
    (ha : (p.serve (world files choose) inner r s).1 = .ok a) :
    a.headers.values sendfileHeader = [] := by
  cases hinside : p.fromInside? files choose inner r s with
  | none =>
    obtain ⟨ending, hending, hvalues⟩ := serve_of_no_fromInside hinside
    exact hvalues a ((hending files).symm.trans ha)
  | some qi =>
    rw [serve_of_fromInside hserves hinside] at ha
    cases ha
    split
    · rw [Plan.values_leaving, values_filed]
    · exact values_conclude _ _ (by decide)

/-- A response that names no file passes, at once. -/
theorem filed_of_nil (h : i.headers.values sendfileHeader = []) (disk : Files.Disk) :
    filed disk q i = i ∧ filingDelay disk q i = 0 := by
  unfold filed filingDelay Headers.get?
  rw [h]
  exact ⟨rfl, rfl⟩

/-- The first name decides, if it is a path. -/
theorem filed_of_path {v : Bytes} {vs : List Bytes} {path : String}
    (h : i.headers.values sendfileHeader = v :: vs) (htext : v.text? = some path)
    (hpath : path ≠ "") (disk : Files.Disk) :
    filed disk q i
        = merge (fileAnswer disk q.method (q.headers.text? "range") path)
          (i.headers.erase sendfileHeader)
      ∧ filingDelay disk q i = fileDelay disk q.method path := by
  have hread : pathIn? v = some path := by
    unfold pathIn?
    rw [htext]
    exact if_pos (decide_eq_true hpath)
  unfold filed filingDelay Headers.get?
  rw [h]
  simp only [List.head?_cons, hread, and_self]

/-- The first name decides, if it is no path, and nothing is opened. -/
theorem filed_of_no_path {v : Bytes} {vs : List Bytes}
    (h : i.headers.values sendfileHeader = v :: vs)
    (htext : v.text? = none ∨ v.text? = some "") (disk : Files.Disk) :
    filed disk q i = .bare .internalServerError ∧ filingDelay disk q i = 0 := by
  have hread : pathIn? v = none := by
    unfold pathIn?
    rcases htext with h | h <;> rw [h] <;> rfl
  unfold filed filingDelay Headers.get?
  rw [h]
  simp only [List.head?_cons, hread, and_self]

end Serving

/-- **What a request gets from a chain that serves files**, after any run of
requests and whatever the innermost handler does.

No answer has the header with the name. Where there is no response from inside,
files have no part in the answer: it is the same whatever files there are. A
response from inside is the backend's answer to this request or was stored, and
it decides alone. Without the header it leaves as it is, by way of compression
and the rim. With a path in the first value, the answer is that of a file server
for this path, whose status and body it has, if the time that is left is enough
to open it, and says that the time is over if it is not; the request has a part
in the range and, as for every file server, in the method. With anything else in
the first value it is an error, and again no file has a part in it. -/
theorem serve_files (p : Plan) (files : Files.Disk) (choose : Chooser)
    (inner : Handler (Exchange β)) (past : List Arrival) (next : Arrival) (s : Scene β)
    (hserves : p.xSendfile = true) :
    let met := next.enter (runAll (p.serve (world files choose) inner) past s).2
    let inside := p.fromInside? files choose inner next.request met
    let answer (disk : Files.Disk) := (p.serve (world disk choose) inner next.request met).1
    (∀ a, answer files = .ok a → a.headers.values sendfileHeader = [])
      ∧ (inside = none → ∀ disk, answer disk = answer files)
      ∧ ∀ q i, inside = some (q, i) →
        let there := p.afterInside files choose inner next.request q met
        FromInside p inner q (p.ahead next.request met) i
        ∧ (i.headers.values sendfileHeader = [] → ∀ disk, answer disk = .ok (p.leaving q i))
        ∧ ∀ v vs, i.headers.values sendfileHeader = v :: vs →
          (∀ path, v.text? = some path → path ≠ "" → ∀ disk,
            (there.Allows (fileDelay disk q.method path) → answer disk = .ok (p.leaving q
              (merge (fileAnswer disk q.method (q.headers.text? "range") path)
                (i.headers.erase sendfileHeader))))
            ∧ (¬ there.Allows (fileDelay disk q.method path) →
              answer disk = .ok (conclude q.method (.bare .requestTimeout))))
          ∧ (v.text? = none ∨ v.text? = some "" → ∀ disk,
            answer disk = .ok (p.leaving q (.bare .internalServerError))) := by
  intro met inside answer
  refine ⟨fun a => values_of_serve hserves, fun hnone disk => ?_, fun q i hsome => ?_⟩
  · obtain ⟨ending, hending, -⟩ := serve_of_no_fromInside hnone
    exact (hending disk).trans (hending files).symm
  · intro there
    obtain ⟨-, hon, hinside⟩ := Plan.fromInside?_eq_some_iff.mp hsome
    have hanswer : ∀ disk, answer disk
        = .ok (if there.Allows (filingDelay disk q i) then p.leaving q (filed disk q i)
          else conclude q.method (.bare .requestTimeout)) :=
      serve_of_fromInside hserves hsome
    have hatOnce : there.Allows 0 := allows_zero there
    refine ⟨fromInside_of_inside hinside, fun hnil disk => ?_,
      fun v vs hcons => ⟨fun path htext hpath disk => ?_, fun htext disk => ?_⟩⟩
    · obtain ⟨hfiled, hdelay⟩ := filed_of_nil (q := q) hnil disk
      rw [hanswer, hdelay, if_pos hatOnce, hfiled]
    · obtain ⟨hfiled, hdelay⟩ := filed_of_path (q := q) hcons htext hpath disk
      rw [hanswer, hdelay, hfiled]
      exact ⟨fun hallows => by rw [if_pos hallows], fun hlate => by rw [if_neg hlate]⟩
    · obtain ⟨hfiled, hdelay⟩ := filed_of_no_path (q := q) hcons htext disk
      rw [hanswer, hdelay, if_pos hatOnce, hfiled]

/-- A directory with one file. -/
def shelf : Files.Tree :=
  ⟨[(["page.txt"], .file (Bytes.ofString "on the shelf"))], 0, []⟩

/-- A backend that names the file in every response, for a minute. -/
def pointing : Backend Unit := fun _ _ =>
  ((0, ⟨.ok, ⟨[⟨"cache-control", Bytes.ofString "public, max-age=60"⟩,
    ⟨sendfileHeader, Bytes.ofString "page.txt"⟩]⟩, Body.empty⟩), ())

/-- The response with the name in it, as the cache hands it on. -/
def pointer (outcome : String) : Response :=
  ⟨.ok, ⟨[⟨"cache-control", Bytes.ofString "public, max-age=60"⟩,
    ⟨sendfileHeader, Bytes.ofString "page.txt"⟩, ⟨cacheHeader, Bytes.ofString outcome⟩]⟩,
    Body.empty⟩

/-- **The second client gets the file as well**, from a name that was given to
the first, and neither of them gets the name. -/
theorem serve_files_replayed :
    let met := (pageAfter 5).enter (runAll (everyLayer.serve (world shelf fun _ => 0)
      (ask pointing)) [pageAfter 0] (.start (.empty 1000 100) ())).2
    everyLayer.xSendfile = true
      ∧ (everyLayer.fromInside? shelf (fun _ => 0) (ask pointing) (pageAfter 5).request
          met).map (·.2) = some (pointer "hit")
      ∧ ∃ a, (everyLayer.serve (world shelf fun _ => 0) (ask pointing)
          (pageAfter 5).request met).1 = .ok a
        ∧ a.body.data = Bytes.ofString "on the shelf"
        ∧ a.headers.values sendfileHeader = [] := by
  intro met
  have hinside : everyLayer.fromInside? shelf (fun _ => 0) (ask pointing)
      (pageAfter 5).request met
      = some (offering (stamped 5000 (pageAfter 5).request), pointer "hit") := by
    decide +kernel
  obtain ⟨hleak, -, hserved⟩ := serve_files everyLayer shelf (fun _ => 0) (ask pointing)
    [pageAfter 0] (pageAfter 5) (.start (.empty 1000 100) ()) rfl
  obtain ⟨-, -, hnamed⟩ := hserved _ _ hinside
  have hopened := (hnamed (Bytes.ofString "page.txt") [] (by decide +kernel)).1 "page.txt"
    (by decide +kernel) (by decide) shelf
  have hanswer := hopened.1 (Or.inl rfl)
  refine ⟨rfl, by rw [hinside]; rfl, _, hanswer, by decide +kernel, hleak _ hanswer⟩

/-- The same directory on a disk that takes half a minute. -/
def slowShelf : Files.Disk := { shelf.disk with delay := fun _ => 30000 }

/-- **A file that is named and not served**: it is there, but half a minute is not
enough to open it. -/
theorem file_notOpened :
    let met := (pageAfter 0).enter (.start (.empty 1000 100) ())
    (everyLayer.fromInside? slowShelf (fun _ => 0) (ask pointing) (pageAfter 0).request
        met).map (·.2) = some (pointer "miss")
      ∧ slowShelf.openPath "page.txt" = .found (.file (Bytes.ofString "on the shelf")) 0
      ∧ ∃ a, (everyLayer.serve (world slowShelf fun _ => 0) (ask pointing)
          (pageAfter 0).request met).1 = .ok a
        ∧ a.status = .requestTimeout ∧ a.body = Body.empty := by
  intro met
  have hserve : (everyLayer.serve (world slowShelf fun _ => 0) (ask pointing)
      (pageAfter 0).request met).1 = .ok (conclude .get (.bare .requestTimeout)) := by
    decide +kernel
  exact ⟨by decide +kernel, by decide +kernel, _, hserve, by decide +kernel,
    by decide +kernel⟩

end Gatehouse.Chain
