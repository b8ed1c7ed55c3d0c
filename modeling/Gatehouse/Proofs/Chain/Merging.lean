import Gatehouse.Proofs.Chain.Filing

/-!
# What a file takes over from the backend

A backend that names a file has answered with headers of its own, such as those
about caching and cookies. The client gets the file with them: what the file
response lacks is filled in from the backend's response.

It is filled in one field after the other, and each field looks at what has been
filled in so far (`values_merge`). So the second field of a name finds the first
one there and is left out. Of a name with one value all arrives; of several
cookies only the first does.
-/

namespace Gatehouse.Chain

open Http Exchange

variable {β : Type}

/-- What comes of a response that takes some time to be had. -/
theorem sleep_pure_apply (millis : Nat) (a : Response) (w : Scene β) :
    ∃ left, (sleep millis >>= fun _ => pure a : Exchange β Response) w
      = (if w.Allows millis then .ok a else .error .timeOver, { w with left := left }) := by
  rw [bind_apply, sleep_apply]
  by_cases htime : w.Allows millis
  · rw [if_pos htime, if_pos htime]
    exact ⟨_, rfl⟩
  · rw [if_neg htime, if_neg htime]
    exact ⟨w.left, rfl⟩

/-- **The response to a request for which the backend names a file**, whatever
files there are and however the backend comes to its response.

Where the time that is left is enough to open the path, its status and its body
are those of a file server's response for it, be the file there or not. Every
header that this response has is kept with all its values, and so are the two that
describe a body, there or not; the name of the file is gone. Of every other header
of the backend the first value is taken over and no other one: what the backend has
of a name arrives in full exactly if it is one value at most. -/
theorem sendfile_adopts (files : Files.Disk) (choose : Cache.Chooser)
    (next : Handler (Exchange β)) (r : Request) (s t : Scene β) (a : Response)
    (v : Bytes) (vs : List Bytes) (path : String)
    (hanswer : next (offering r) s = (.ok a, t))
    (hnamed : a.headers.values sendfileHeader = v :: vs)
    (htext : v.text? = some path) (hpath : path ≠ "") :
    let delay := fileDelay files r.method path
    ∃ served b u,
      (∀ w : Scene β, ∃ left, fileResponse (world files choose) r.method
          (r.headers.text? "range") path w
        = (if w.Allows delay then .ok served else .error .timeOver,
          { w with left := left }))
      ∧ sendfile (world files choose) next r s
        = (if t.Allows delay then .ok b else .error .timeOver, u)
      ∧ b.status = served.status ∧ b.body = served.body
      ∧ b.headers.values sendfileHeader = []
      ∧ (∀ name, name ∈ bodyHeaders ∨ served.headers.values name ≠ [] →
        b.headers.values name = served.headers.values name)
      ∧ ∀ name, name ∉ sendfileHeader :: bodyHeaders → served.headers.values name = [] →
        b.headers.values name = (a.headers.values name).take 1
        ∧ (b.headers.values name = a.headers.values name
          ↔ (a.headers.values name).length ≤ 1) := by
  intro delay
  obtain ⟨hfiled, hdelay⟩ := filed_of_path (q := offering r) hnamed htext hpath files
  have hmethod : (offering r).method = r.method := rfl
  rw [text?_offering r (by decide), hmethod] at hfiled
  obtain ⟨left, hopened⟩ := sleep_pure_apply delay (filed files (offering r) a)
    (t.noted (fileNotes a))
  refine ⟨fileAnswer files r.method (r.headers.text? "range") path,
    filed files (offering r) a, { t.noted (fileNotes a) with left := left }, fun w => ?_,
    ?_, ?_, ?_, values_filed files (offering r) a, fun name hkept => ?_,
    fun name hother hlacks => ?_⟩
  · rw [fileResponse_eq]
    exact sleep_pure_apply delay _ w
  · rw [sendfile_eq, bind_apply_ok hanswer, hdelay]
    exact hopened
  · rw [hfiled]
    rfl
  · rw [hfiled]
    rfl
  · rw [hfiled, values_merge, if_pos hkept]
  · obtain ⟨hname, hbody⟩ := not_or.mp (mt List.mem_cons.mpr hother)
    have hfirst : (filed files (offering r) a).headers.values name
        = (a.headers.values name).take 1 := by
      rw [hfiled, values_merge, if_neg (not_or.mpr ⟨hbody, not_not.mpr hlacks⟩),
        Headers.values_erase, if_neg (Ne.symm hname)]
    rw [hfirst]
    exact ⟨rfl, List.take_eq_self_iff _⟩

/-- A response that names a file and sets cookies, one or two. -/
def cookies (more : List Field) : Response :=
  ⟨.ok, ⟨⟨sendfileHeader, Bytes.ofString "page.txt"⟩
    :: ⟨"set-cookie", Bytes.ofString "a=1"⟩ :: more⟩, Body.empty⟩

/-- A backend that always answers so. -/
def baking (more : List Field) : Backend Unit := fun _ _ => ((0, cookies more), ())

/-- A single cookie reaches the client with the file. -/
theorem sendfile_adopts_cookie :
    ∃ b u, sendfile (world shelf fun _ => 0) (ask (baking [])) (pageAfter 0).request
        (.start (.empty 1000 100) ()) = (.ok b, u)
      ∧ b.body.data = Bytes.ofString "on the shelf"
      ∧ b.headers.values "set-cookie" = [Bytes.ofString "a=1"] := by
  obtain ⟨served, b, u, hserved, hb, -, hbody, -, -, hadopted⟩ :=
    sendfile_adopts shelf (fun _ => 0) (ask (baking [])) (pageAfter 0).request
      (.start (.empty 1000 100) ()) (.start (.empty 1000 100) ()) (cookies [])
      (Bytes.ofString "page.txt") [] "page.txt" rfl (by decide +kernel) (by decide +kernel)
      (by decide)
  have hfile : served = fileAnswer shelf .get none "page.txt" := by
    obtain ⟨left, hopened⟩ := hserved (.start (.empty 1000 100) ())
    rw [fileResponse_eq] at hopened
    cases hopened
    decide +kernel
  refine ⟨b, u, hb, ?_, ?_⟩
  · rw [hbody, hfile]
    decide +kernel
  · rw [(hadopted "set-cookie" (by decide) (by rw [hfile]; decide +kernel)).1]
    decide +kernel

/-- **The second cookie is lost**, although no file response sets any. -/
theorem sendfile_dropsCookie :
    let backend := cookies [⟨"set-cookie", Bytes.ofString "b=2"⟩]
    let served := fileAnswer shelf .get none "page.txt"
    backend.headers.values "set-cookie" = [Bytes.ofString "a=1", Bytes.ofString "b=2"]
      ∧ served.headers.values "set-cookie" = []
      ∧ ∃ b, (sendfile (world shelf fun _ => 0)
          (ask (baking [⟨"set-cookie", Bytes.ofString "b=2"⟩])) (pageAfter 0).request
          (.start (.empty 1000 100) ())).1 = .ok b
        ∧ b.body = served.body
        ∧ b.headers.values "set-cookie" = [Bytes.ofString "a=1"] := by
  intro backend served
  refine ⟨by decide +kernel, by decide +kernel,
    filed shelf (offering (pageAfter 0).request) backend, ?_, ?_, ?_⟩
  · decide +kernel
  · decide +kernel
  · decide +kernel

end Gatehouse.Chain
