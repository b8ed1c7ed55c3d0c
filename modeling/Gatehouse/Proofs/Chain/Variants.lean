import Gatehouse.Proofs.Chain.Provenance

/-!
# Variants of a response

A backend can have several responses for one place, and says in `Vary` by
which headers of a request it tells them apart. The cache does not look for
its answers there. What is stored under a key is given to every request that
has the key (`caching_variants`), and so a request and the one that its
answer was stored for are known to agree in what makes up the key and in
having no credentials, and in no other header.

`Vary` can only keep a response out of the store. It does that where one of
its values is an asterisk alone, or cannot be read.
-/

namespace Gatehouse.Chain

open Http Cache Exchange

variable {β : Type} {capacity maxItemSize : Nat}

/-- **Headers that leave a response reusable**: no value of `Vary` is an
asterisk alone, and every one can be read. -/
def Reusable (h : Headers) : Prop :=
  ∀ value ∈ h.values "vary", ∃ text, value.text? = some text ∧ Text.trim text ≠ "*"

theorem isReusableVary_iff {value : Bytes} :
    isReusableVary value = true
      ↔ ∃ text, value.text? = some text ∧ Text.trim text ≠ "*" := by
  unfold isReusableVary
  cases value.text? <;> simp

/-- **What a dialogue leaves in a store is reusable.** -/
theorem Dialogue.reusable_of_item? {d : Dialogue} {i : Item}
    (h : d.item? capacity maxItemSize = some i) : Reusable i.2.headers := by
  obtain ⟨key, e⟩ := i
  obtain ⟨-, seconds, hlife, body, -, expires, -, -, rfl⟩ :=
    Dialogue.item?_eq_some_iff.mp h
  obtain ⟨-, -, hvary, -⟩ := lifetime?_eq_some_iff.mp hlife
  intro value hvalue
  exact isReusableVary_iff.mp (List.all_eq_true.mp hvary value hvalue)

/-- Requests with keys agree about their credentials: they have none. -/
theorem values_authorization_of_key? {r : Request} {key : String}
    (h : key? r = some key) : r.headers.values "authorization" = [] := by
  obtain ⟨-, hanonymous, -⟩ := key?_eq_some_iff.mp h
  by_contra hne
  rw [Headers.contains_eq_true_iff.mpr hne] at hanonymous
  cases hanonymous

/-- **What `Vary` does, and what it does not.** After every run of requests,
the store has reusable responses only. A fresh one is the answer to any
request with its key, whatever other headers that has. And a request that is
answered from the store has the key of the one whose dialogue has left the
response there; neither of the two has credentials. -/
theorem caching_variants (o : Source β) (files : Files.Disk) (choose : Chooser)
    (capacity maxItemSize : Nat) (state : β) (past : List Arrival) (a : Arrival) :
    let h := caching (world files choose) o.recalling
    let s := a.enter (runAll h past (.start (.empty capacity maxItemSize) (state, []))).2
    (∀ i ∈ s.store.items, Reusable i.2.headers)
      ∧ (∀ r key e, key? r = some key → s.store.find? key = some e →
        e.isFresh a.clock = true → (h r s).1 = .ok (withOutcome e.toResponse .hit))
      ∧ ∀ r answer, (h r s).1 = .ok answer →
        answer.headers.values cacheHeader = [Bytes.ofString "hit"] →
        ∃ key e, key? r = some key ∧ s.store.find? key = some e
          ∧ answer = withOutcome e.toResponse .hit
          ∧ ∃ d ∈ s.backend.2, d.item? capacity maxItemSize = some (key, e)
            ∧ key? d.request = key? r
            ∧ d.request.headers.values "authorization"
              = r.headers.values "authorization" := by
  intro h s
  have hmemory := remembers_run o files choose capacity maxItemSize state past
  have hcourse (r : Request) : Course choose o.recalling r s (h r s) :=
    caching_course files choose o.recalling r s
  -- every entry is what some dialogue of the run has left
  have hleft : ∀ i ∈ s.store.items,
      ∃ d ∈ s.backend.2, d.item? capacity maxItemSize = some i := by
    intro i hi
    obtain ⟨before, d, after, hds, hitem, -⟩ := hmemory.items i hi
    have hmem : d ∈ s.backend.2 := by
      rw [show s.backend.2 = before ++ d :: after from hds]
      exact List.mem_append_right before List.mem_cons_self
    exact ⟨d, hmem, hitem⟩
  refine ⟨fun i hi => ?_, fun r key e hkey hfind hfresh => ?_,
    fun r answer hanswer hvalues => ?_⟩
  · obtain ⟨d, -, hitem⟩ := hleft i hi
    exact Dialogue.reusable_of_item? hitem
  · have hget : (s.store.get s.clock key).1 = some e :=
      Store.get_eq_some_iff.mpr ⟨hfind, hfresh⟩
    exact (hcourse r).eq_hit hkey hget
  · have hstep : Course choose o.recalling r s (.ok answer, (h r s).2) := by
      rw [← hanswer]
      exact hcourse r
    obtain ⟨key, e, hkey, hget, rfl, -⟩ := hstep.hit_of_values hvalues
    have hfind := (Store.get_eq_some_iff.mp hget).1
    obtain ⟨d, hd, hitem⟩ := hleft (key, e) (Store.mem_of_find? hfind)
    have hkey' := (Dialogue.item?_eq_some_iff.mp hitem).1
    refine ⟨key, e, hkey, hfind, rfl, d, hd, hitem, hkey'.trans hkey.symm, ?_⟩
    rw [values_authorization_of_key? hkey', values_authorization_of_key? hkey]

/-- A backend that answers with the language that it is asked for, and says
in `Vary` what its answer depends on. -/
def speaking (vary : String) : Backend Unit := fun r _ =>
  ((0, ⟨.ok, ⟨[⟨"cache-control", Bytes.ofString "public, max-age=60"⟩,
    ⟨"vary", Bytes.ofString vary⟩]⟩,
    Body.ofBytes ((r.headers.get? "accept-language").getD [])⟩), ())

/-- A reader of a language, some seconds after the first. -/
def reader (language : String) (seconds : Nat) : Arrival :=
  { pageAfter seconds with
    request := { (pageAfter seconds).request with
      headers := ⟨[⟨"accept-language", Bytes.ofString language⟩]⟩ } }

/-- A cache in front of that backend. -/
def speakingCache (vary : String) : Handler (Exchange (Unit × List Dialogue)) :=
  caching (world .empty fun _ => 0) (Source.ofBackend (speaking vary)).recalling

/-- What a German reader leaves. -/
def afterGerman (vary : String) : Scene (Unit × List Dialogue) :=
  (runAll (speakingCache vary) [reader "de" 0] (.start (.empty 1000 100) ((), []))).2

/-- The entry that is left, where the language is all that `Vary` names. -/
def germanEntry : Entry :=
  ⟨.ok, ⟨[⟨"cache-control", Bytes.ofString "public, max-age=60"⟩,
    ⟨"vary", Bytes.ofString "accept-language"⟩]⟩, Bytes.ofString "de", ⟨60000000000⟩⟩

/-- The German page is reusable, and an English reader gets it, because the
key is the same. -/
theorem caching_variants_reader :
    key? (reader "en" 5).request = some "/page"
      ∧ (afterGerman "accept-language").store.find? "/page" = some germanEntry
      ∧ germanEntry.isFresh (reader "en" 5).clock = true
      ∧ Reusable germanEntry.headers
      ∧ (speakingCache "accept-language" (reader "en" 5).request
          ((reader "en" 5).enter (afterGerman "accept-language"))).1
        = .ok (withOutcome germanEntry.toResponse .hit)
      ∧ ∃ d ∈ (afterGerman "accept-language").backend.2,
        key? d.request = key? (reader "en" 5).request := by
  have hkey : key? (reader "en" 5).request = some "/page" := by decide +kernel
  have hfind : (afterGerman "accept-language").store.find? "/page"
      = some germanEntry := by cbv
  have hfresh : germanEntry.isFresh (reader "en" 5).clock = true := by decide
  have hvalues : (withOutcome germanEntry.toResponse .hit).headers.values cacheHeader
      = [Bytes.ofString "hit"] := values_withOutcome _ _
  obtain ⟨hreusable, hhit, hstored⟩ := caching_variants
    (Source.ofBackend (speaking "accept-language")) .empty (fun _ => 0) 1000 100 ()
    [reader "de" 0] (reader "en" 5)
  have hanswer := hhit _ _ _ hkey hfind hfresh
  obtain ⟨-, -, -, -, -, d, hd, -, hsame, -⟩ := hstored _ _ hanswer hvalues
  exact ⟨hkey, hfind, hfresh, hreusable _ (Store.mem_of_find? hfind), hanswer, d, hd,
    hsame⟩

/-- **Requests that `Vary` tells apart, and the cache does not**: an English
reader gets the page that was stored for a German one, although `Vary` names
the language. Nor is a response kept out of the store by an asterisk that
is one of several members of `Vary`. -/
theorem caching_mixes_languages :
    (∃ answer, (speakingCache "accept-language" (reader "en" 5).request
          ((reader "en" 5).enter (afterGerman "accept-language"))).1 = .ok answer
        ∧ answer.headers.values cacheHeader = [Bytes.ofString "hit"]
        ∧ answer.headers.values "vary" = [Bytes.ofString "accept-language"]
        ∧ answer.body.data = Bytes.ofString "de"
        ∧ (reader "de" 0).request.headers.values "accept-language"
          ≠ (reader "en" 5).request.headers.values "accept-language")
      ∧ ∃ i ∈ (afterGerman "accept-language, *").store.items,
        ∃ value ∈ i.2.headers.values "vary", ∃ text, value.text? = some text
          ∧ "*" ∈ (Text.commaPieces text).map Text.trim := by
  refine ⟨⟨withOutcome germanEntry.toResponse .hit, by cbv, by decide +kernel,
    by decide +kernel, rfl, by decide +kernel⟩, ?_⟩
  have hitems : (afterGerman "accept-language, *").store.items
      = [("/page", { germanEntry with
          headers := ⟨[⟨"cache-control", Bytes.ofString "public, max-age=60"⟩,
            ⟨"vary", Bytes.ofString "accept-language, *"⟩]⟩ })] := by cbv
  rw [hitems]
  refine ⟨_, List.mem_singleton_self _, Bytes.ofString "accept-language, *", ?_,
    "accept-language, *", by decide +kernel, by decide +kernel⟩
  decide +kernel

end Gatehouse.Chain
