import Gatehouse.Proofs.Chain.Onward

/-!
# What a request comes to at a chain

Ten layers are wrapped around a handler, each written without regard to the
others. Behind the deadline they are together a program of a few lines
(`Plan.guarded_eq`): the verdict on the client is noted, the request that the
plan hands on is answered by what lies inside of the layer that serves files,
and the answer is exchanged for a file where it names one, and compressed
where that is wanted.

An equation between programs leaves nothing open: it says what the client
gets, what is stored, and what stands in the records afterwards. With the
deadline around it, it comes down to four cases. A request is refused by the
chain itself, is answered from inside, is late, or is abandoned. They are the
constructors of `Plan.Journey`, and `Plan.serve_journey` says that there is no
other.
-/

namespace Gatehouse.Chain

open Http Cache Country Exchange

variable {α β : Type}

/-! ## The chain -/

namespace Plan

/-- **What lies inside** of the layer that serves files. -/
def inside {m : Type → Type} [Monad m] (p : Plan) (w : World m) (inner : Handler m) :
    Handler m :=
  wrapIf p.cacheEnabled (caching w) (tunnelRule inner)

/-- What is noted about a request before it is handed on. -/
def screenNotes (p : Plan) (r : Request) : Notes :=
  match p.filter with
  | some f => Chain.screenNotes f r
  | none => .none

/-- What is noted about a response from inside. -/
def fileNotes (p : Plan) (i : Response) : Notes :=
  if p.xSendfile then Chain.fileNotes i else .none

/-- **What becomes of a response from inside** before it is reported. -/
def outward (p : Plan) (files : Files.Disk) (q : Request) (i : Response) : Response :=
  let a := if p.xSendfile then filed files q i else i
  if p.gzipCompression then encoded q.headers a else a

/-- The milliseconds that this takes. -/
def filingDelay (p : Plan) (files : Files.Disk) (q : Request) (i : Response) : Nat :=
  if p.xSendfile then Chain.filingDelay files q i else 0

/-- The answer to a request that announces too much. -/
def tooLarge : Response := .text .contentTooLarge "length limit exceeded"

/-- **The answer of the chain itself**, where nothing is handed on. -/
def ownAnswer (p : Plan) (r : Request) : Response :=
  match p.filter with
  | some f => if Denied f r then accessDenied else tooLarge
  | none => tooLarge

/-- What is noted in the end. -/
def reportNotes (p : Plan) (r : Request) (a : Response) : Notes :=
  if p.logRequests then
    ⟨[.request (requestLine r a)], [.requests r.method.name a.status.code, .durations]⟩
  else .none

/-- The layers behind the deadline. -/
def guarded {m : Type → Type} [Monad m] (p : Plan) (w : World m) (h : Handler m) :
    Handler m :=
  match p.filter with
  | some f => countryGuard w f (p.interior w h)
  | none => p.interior w h

/-- A chain is its exterior around that. -/
theorem build_eq_exterior {m : Type → Type} [Monad m] (p : Plan) (w : World m)
    (h : Handler m) : p.build w h = p.exterior w (p.guarded w h) := by
  obtain ⟨secs, log, filter, limit, gzip, sendfile, cache⟩ := p
  cases filter <;> rfl

section Programs

variable (p : Plan) (files : Files.Disk) (choose : Chooser)

/-- The request as it reaches what lies inside. -/
def addressed (millis : Nat) (r : Request) : Request :=
  if p.xSendfile then offering (stamped millis r) else stamped millis r

/-- On its way there, the codings that a client accepts stay as they are. -/
theorem encoded_addressed (millis : Nat) (r : Request) (a : Response) :
    encoded (p.addressed millis r).headers a = encoded r.headers a := by
  refine encoded_congr a ?_
  unfold addressed
  split
  · rw [values_offering, if_neg (by decide), values_stamped (by decide)]
  · exact values_stamped (by decide)

/-- The layers behind a limit of the body. -/
theorem behindLimit_eq (h : Handler (Exchange β)) (r : Request) :
    wrapIf p.gzipCompression compression (requestStart (world files choose)
        (wrapIf p.xSendfile (sendfile (world files choose)) h)) r = (do
      let millis ← (world files choose).millis
      let i ← h (p.addressed millis r)
      note (p.fileNotes i)
      sleep (p.filingDelay files (p.addressed millis r) i)
      return p.outward files (p.addressed millis r) i) := by
  have hfiles (millis : Nat) :
      wrapIf p.xSendfile (sendfile (world files choose)) h (stamped millis r) = (do
        let i ← h (p.addressed millis r)
        note (p.fileNotes i)
        sleep (p.filingDelay files (p.addressed millis r) i)
        return if p.xSendfile then filed files (p.addressed millis r) i else i) := by
    unfold wrapIf addressed fileNotes filingDelay
    cases p.xSendfile with
    | true => exact sendfile_eq files choose h _
    | false =>
      -- where no files are served, nothing is noted and no time passes
      simp only [Bool.false_eq_true, if_false, sleep_zero, pure_bind]
      exact (bind_pure _).symm
  have hstart : requestStart (world files choose)
      (wrapIf p.xSendfile (sendfile (world files choose)) h) r = (do
        let millis ← (world files choose).millis
        let i ← h (p.addressed millis r)
        note (p.fileNotes i)
        sleep (p.filingDelay files (p.addressed millis r) i)
        return if p.xSendfile then filed files (p.addressed millis r) i else i) := by
    rw [requestStart_eq]
    exact bind_congr hfiles
  unfold outward
  cases p.gzipCompression with
  | false => exact hstart
  | true =>
    show compression (requestStart (world files choose) _) r = _
    rw [compression_eq, hstart]
    simp only [bind_assoc, pure_bind, encoded_addressed, if_true]

/-- **The layers behind the filter** as one program. -/
theorem interior_eq (h : Handler (Exchange β)) (r : Request) :
    p.interior (world files choose) (tunnelRule h) r = (do
      let millis ← (world files choose).millis
      match p.inward millis r with
      | some q => do
        let i ← p.inside (world files choose) h q
        note (p.fileNotes i)
        sleep (p.filingDelay files q i)
        return p.outward files q i
      | none => return tooLarge) := by
  have hrest (r : Request) := behindLimit_eq p files choose
    (p.inside (world files choose) h) r
  unfold interior inward
  by_cases hlimit : p.maxRequestBody > 0
  · rw [decide_eq_true hlimit, if_pos hlimit]
    show bodyLimit p.maxRequestBody _ r = _
    rw [bodyLimit_eq]
    cases curtail p.maxRequestBody r with
    | none => rfl
    | some r' => exact hrest r'
  · rw [decide_eq_false hlimit, if_neg hlimit]
    exact hrest r

/-- **The layers behind the deadline** as one program. -/
theorem guarded_eq (h : Handler (Exchange β)) (r : Request) :
    p.guarded (world files choose) (tunnelRule h) r = (do
      note (p.screenNotes r)
      let millis ← (world files choose).millis
      match p.onward millis r with
      | some q => do
        let i ← p.inside (world files choose) h q
        note (p.fileNotes i)
        sleep (p.filingDelay files q i)
        return p.outward files q i
      | none => return p.ownAnswer r) := by
  unfold guarded screenNotes onward ownAnswer
  cases p.filter with
  | none => exact interior_eq p files choose h r
  | some f =>
    dsimp only
    rw [countryGuard_eq]
    refine bind_congr fun _ => ?_
    by_cases hden : Denied f r
    · rw [screen_of_denied hden, if_pos hden]
      rfl
    · simp only [screen_of_not_denied hden, if_neg hden]
      exact interior_eq p files choose h (admitted f r)

end Programs

/-! ## The ways of a request -/

/-- The scene in which a request is handed on: the verdict is noted, and there
is so much time. -/
def ahead (p : Plan) (r : Request) (s : Scene β) : Scene β :=
  { s.noted (p.screenNotes r) with left := some (granted p.requestSecs s.clock) }

/-- **The end of an exchange** that has an answer: it is reported and leaves. -/
def closed (p : Plan) (r : Request) (a : Response) (t : Scene β) :
    Except Interrupt Response × Scene β :=
  (.ok (conclude r.method a), t.noted (p.reportNotes r a))

/-- **What a request comes to at a chain**: the ending of its exchange, and the
scene that it leaves. -/
inductive Journey (p : Plan) (files : Files.Disk) (choose : Chooser)
    (inner : Handler (Exchange β)) (r : Request) (s : Scene β) :
    Except Interrupt Response × Scene β → Prop
  /-- The time is over before anything has begun. -/
  | overdue (htime : p.Overdue s.clock) :
      Journey p files choose inner r s (p.closed r (.bare .requestTimeout) s)
  /-- The chain itself answers. -/
  | refused (htime : ¬ p.Overdue s.clock) (hon : p.onward s.millis r = none) :
      Journey p files choose inner r s
        (p.closed r (p.ownAnswer r) (s.noted (p.screenNotes r)))
  /-- There is a response from inside. -/
  | answered {q : Request} {i : Response} {t : Scene β} (htime : ¬ p.Overdue s.clock)
      (hon : p.onward s.millis r = some q)
      (hinside : p.inside (world files choose) inner q (p.ahead r s) = (.ok i, t))
      (hfile : t.Allows (p.filingDelay files q i)) :
      Journey p files choose inner r s
        (p.closed r (p.outward files q i)
          ({ t with left := s.left }.noted (p.fileNotes i)))
  /-- There is a response from inside, and the time is over before the file that
  it names is opened. -/
  | unopened {q : Request} {i : Response} {t : Scene β} (htime : ¬ p.Overdue s.clock)
      (hon : p.onward s.millis r = some q)
      (hinside : p.inside (world files choose) inner q (p.ahead r s) = (.ok i, t))
      (hfile : ¬ t.Allows (p.filingDelay files q i)) :
      Journey p files choose inner r s
        (p.closed r (.bare .requestTimeout)
          ({ t with left := s.left }.noted (p.fileNotes i)))
  /-- A response from inside would come too late. -/
  | late {q : Request} {t : Scene β} (htime : ¬ p.Overdue s.clock)
      (hon : p.onward s.millis r = some q)
      (hinside : p.inside (world files choose) inner q (p.ahead r s)
        = (.error .timeOver, t)) :
      Journey p files choose inner r s
        (p.closed r (.bare .requestTimeout) { t with left := s.left })
  /-- The exchange is given up inside. -/
  | abandoned {q : Request} {t : Scene β} (htime : ¬ p.Overdue s.clock)
      (hon : p.onward s.millis r = some q)
      (hinside : p.inside (world files choose) inner q (p.ahead r s)
        = (.error .clockOverflow, t)) :
      Journey p files choose inner r s (.error .clockOverflow, { t with left := s.left })

section Ways

variable (p : Plan) (files : Files.Disk) (choose : Chooser)
variable (inner : Handler (Exchange β)) (r : Request) (s : Scene β)

/-- What is answered is reported. -/
theorem requestLog_apply (h : Handler (Exchange β)) :
    wrapIf p.logRequests (requestLog (world files choose)) h r s
      = match h r s with
        | (.ok a, t) => (.ok a, t.noted (p.reportNotes r a))
        | (.error e, t) => (.error e, t) := by
  unfold reportNotes
  cases p.logRequests with
  | false =>
    show h r s = _
    rcases h r s with ⟨_ | _, t⟩ <;> rfl
  | true =>
    show requestLog (world files choose) h r s = _
    unfold requestLog
    rw [bind_apply]
    rcases h r s with ⟨_ | _, t⟩ <;> rfl

/-- What is answered in time goes on, and what is late is answered. -/
theorem timeout_apply (h : Handler (Exchange β)) :
    timeout (world files choose) p.requestSecs h r s
      = if p.Overdue s.clock then (.ok (.bare .requestTimeout), s)
        else match h r { s with left := some (granted p.requestSecs s.clock) } with
          | (.ok a, t) => (.ok a, { t with left := s.left })
          | (.error .timeOver, t) => (.ok (.bare .requestTimeout), { t with left := s.left })
          | (.error e, t) => (.error e, { t with left := s.left }) := by
  have hwithin : (world files choose).within p.requestSecs (h r) s
      = within p.requestSecs (h r) s := rfl
  unfold timeout
  rw [bind_apply, hwithin]
  unfold within
  by_cases htime : p.Overdue s.clock
  · have hgranted : granted p.requestSecs s.clock = 0 := htime
    rw [if_pos htime, if_pos hgranted]
    rfl
  · have hgranted : granted p.requestSecs s.clock ≠ 0 := htime
    rw [if_neg htime, if_neg hgranted]
    rcases h r { s with left := some (granted p.requestSecs s.clock) } with ⟨e | a, t⟩
    · cases e <;> rfl
    · rfl

/-- What becomes of a response from inside, in the time that is left. -/
theorem file_apply (q : Request) (i : Response) (t : Scene β) :
    (do
      note (p.fileNotes i)
      sleep (p.filingDelay files q i)
      return p.outward files q i : Exchange β Response) t
      = if t.Allows (p.filingDelay files q i)
        then (.ok (p.outward files q i), { t.noted (p.fileNotes i) with
          left := t.left.map (· - p.filingDelay files q i) })
        else (.error .timeOver, t.noted (p.fileNotes i)) := by
  show (sleep (p.filingDelay files q i) >>= fun _ => pure (p.outward files q i))
    (t.noted (p.fileNotes i)) = _
  have hallows : (t.noted (p.fileNotes i)).Allows (p.filingDelay files q i)
      ↔ t.Allows (p.filingDelay files q i) := Iff.rfl
  rw [bind_apply, sleep_apply]
  by_cases hfile : t.Allows (p.filingDelay files q i)
  · rw [if_pos (hallows.2 hfile), if_pos hfile]
    rfl
  · rw [if_neg (mt hallows.1 hfile), if_neg hfile]

/-- What lies behind the deadline, at the scene in which it is reached. -/
theorem guarded_apply :
    p.guarded (world files choose) (tunnelRule inner) r
        { s with left := some (granted p.requestSecs s.clock) }
      = match p.onward s.millis r with
        | some q => match p.inside (world files choose) inner q (p.ahead r s) with
          | (.ok i, t) => if t.Allows (p.filingDelay files q i)
            then (.ok (p.outward files q i), { t.noted (p.fileNotes i) with
              left := t.left.map (· - p.filingDelay files q i) })
            else (.error .timeOver, t.noted (p.fileNotes i))
          | (.error e, t) => (.error e, t)
        | none => (.ok (p.ownAnswer r), p.ahead r s) := by
  rw [guarded_eq p files choose]
  show (match p.onward s.millis r with
    | some q => (do
        let i ← p.inside (world files choose) inner q
        note (p.fileNotes i)
        sleep (p.filingDelay files q i)
        return p.outward files q i : Exchange β Response)
    | none => return p.ownAnswer r) (p.ahead r s) = _
  cases p.onward s.millis r with
  | none => rfl
  | some q =>
    dsimp only
    rw [bind_apply]
    rcases p.inside (world files choose) inner q (p.ahead r s) with ⟨_ | i, t⟩
    · rfl
    · exact file_apply p files q i t

/-- **What the deadline lets through** is reported and leaves. -/
theorem serve_apply :
    p.serve (world files choose) inner r s
      = match timeout (world files choose) p.requestSecs
          (p.guarded (world files choose) (tunnelRule inner)) r s with
        | (.ok a, t) => p.closed r a t
        | (.error e, t) => (.error e, t) := by
  have hbuild : p.build (world files choose) (tunnelRule inner) r s
      = wrapIf p.logRequests (requestLog (world files choose))
        (timeout (world files choose) p.requestSecs
          (p.guarded (world files choose) (tunnelRule inner))) r s := by
    rw [build_eq_exterior]
    rfl
  unfold serve
  rw [bind_apply, hbuild, requestLog_apply]
  rcases timeout (world files choose) p.requestSecs
    (p.guarded (world files choose) (tunnelRule inner)) r s with ⟨_ | _, t⟩ <;> rfl

/-- **Every request takes one of these ways**, whatever the innermost handler
does. -/
theorem serve_journey :
    p.Journey files choose inner r s (p.serve (world files choose) inner r s) := by
  rw [serve_apply, timeout_apply]
  by_cases htime : p.Overdue s.clock
  · rw [if_pos htime]
    exact .overdue htime
  · rw [if_neg htime, guarded_apply p files choose inner r s]
    cases hon : p.onward s.millis r with
    | none => exact .refused htime hon
    | some q =>
      dsimp only
      rcases hinside : p.inside (world files choose) inner q (p.ahead r s) with ⟨e | i, t⟩
      · cases e with
        | timeOver => exact .late htime hon hinside
        | clockOverflow => exact .abandoned htime hon hinside
      · dsimp only
        by_cases hfile : t.Allows (p.filingDelay files q i)
        · rw [if_pos hfile]
          exact .answered htime hon hinside hfile
        · rw [if_neg hfile]
          exact .unopened htime hon hinside hfile

/-- **What the client gets** is a function of what is inside. -/
theorem serve_fst :
    (p.serve (world files choose) inner r s).1 =
      if p.Overdue s.clock then .ok (conclude r.method (.bare .requestTimeout))
      else match p.onward s.millis r with
        | none => .ok (conclude r.method (p.ownAnswer r))
        | some q => match p.inside (world files choose) inner q (p.ahead r s) with
          | (.ok i, t) => if t.Allows (p.filingDelay files q i)
            then .ok (conclude r.method (p.outward files q i))
            else .ok (conclude r.method (.bare .requestTimeout))
          | (.error .timeOver, _) => .ok (conclude r.method (.bare .requestTimeout))
          | (.error .clockOverflow, _) => .error .clockOverflow := by
  have hway := serve_journey p files choose inner r s
  generalize p.serve (world files choose) inner r s = y at hway ⊢
  cases hway with
  | overdue htime => rw [if_pos htime]; rfl
  | refused htime hon => simp only [if_neg htime, hon]; rfl
  | answered htime hon hinside hfile => simp only [if_neg htime, hon, hinside, if_pos hfile]; rfl
  | unopened htime hon hinside hfile => simp only [if_neg htime, hon, hinside, if_neg hfile]; rfl
  | late htime hon hinside => simp only [if_neg htime, hon, hinside]; rfl
  | abandoned htime hon hinside => simp only [if_neg htime, hon, hinside]

end Ways

end Plan

end Gatehouse.Chain
