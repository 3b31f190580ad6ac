import McuMgr.Config

set_option autoImplicit false

/-!
# Streaming image data into flash

`img_mgmt_impl_write_image_data` keeps a `flash_img_context` across calls: the static `ctx_data`,
or in the heap build a `k_malloc` block freed after the last chunk. The stream counter
`stream.bytes_written + stream.buf_bytes` is all the function reads of the context, so it stands
for the context here; the collaborators' answers are an explicit outcome per call, each failure
with its effect on the counter.
-/
namespace McuMgr.WriteImage
open McuMgr.Config

/-- What a call of `flash_img_init_id` or `flash_img_buffered_write` does: succeed, or fail and
leave the stream counter as the given function of its previous value. -/
inductive FlashImgResult where
  | ok
  | fail (after : Nat → Nat)

/-- The collaborators' answers during one call; `malloc` is what `k_malloc` returns, `none` for
NULL or a block whose uninitialised counter holds the value. -/
structure WriteOutcome where
  malloc : Option Nat
  init : FlashImgResult
  write : FlashImgResult

structure WriteCall where
  offset : Nat
  numBytes : Nat
  last : Bool
  deriving DecidableEq, Repr

def flashImgInitId : FlashImgResult → Nat → Bool × Nat
  | .ok, _ => (true, 0)
  | .fail after, counter => (false, after counter)

def flashImgBufferedWrite (numBytes : Nat) : FlashImgResult → Nat → Bool × Nat
  | .ok, counter => (true, counter + numBytes)
  | .fail after, counter => (false, after counter)

/-- The body of `img_mgmt_impl_write_image_data` once `ctx` is valid: initialise at offset 0,
check the offset against the counter, write. -/
def writeToCtx (o : WriteOutcome) (c : WriteCall) (counter : Nat) : Except MgmtErr Unit × Nat :=
  match (if c.offset = 0 then flashImgInitId o.init counter else (true, counter)) with
  | (false, counter) => (.error .eunknown, counter)
  | (true, counter) =>
    if c.offset ≠ counter then (.error .eunknown, counter)
    else
      match flashImgBufferedWrite c.numBytes o.write counter with
      | (false, counter) => (.error .eunknown, counter)
      | (true, counter) => (.ok (), counter)

/-- `img_mgmt_impl_write_image_data`. The state is `ctx`, with `none` for NULL; in the static
build `ctx` is `&ctx_data`, never NULL, and the state stays `some`. -/
def imgMgmtImplWriteImageData (heap : Bool) (o : WriteOutcome) (c : WriteCall) (ctx : Option Nat) :
    Except MgmtErr Unit × Option Nat :=
  if heap then
    if c.offset ≠ 0 ∧ ctx = none then (.error .eunknown, ctx)
    else
      match (if c.offset = 0 ∧ ctx = none then o.malloc else ctx) with
      | none => (.error .enomem, none)
      | some counter =>
        match writeToCtx o c counter with
        | (.ok (), counter) => (.ok (), if c.last then none else some counter)
        | (.error e, counter) => (.error e, some counter)
  else
    let r := writeToCtx o c (ctx.getD 0)
    (r.1, some r.2)

def initCtx (heap : Bool) : Option Nat := if heap then none else some 0

abbrev Entry := WriteCall × Bool

/-- The calls one after another from `ctx`, each recorded in front of the history `hist`, so
that the history lists the newest call first. -/
def runWrites (heap : Bool) : Option Nat × List Entry → List (WriteOutcome × WriteCall) →
    Option Nat × List Entry
  | s, [] => s
  | (ctx, hist), (o, c) :: rest =>
    let r := imgMgmtImplWriteImageData heap o c ctx
    runWrites heap (r.2, (c, r.1.isOk) :: hist) rest

/-- Looking back from the newest call: the bytes accepted since the most recent call at offset 0,
when that call was itself accepted. -/
def sessionBytes : List Entry → Option Nat
  | [] => none
  | (c, accepted) :: older =>
    if c.offset = 0 then (if accepted then some c.numBytes else none)
    else (sessionBytes older).map fun s => if accepted then s + c.numBytes else s

/-- Looking back from the newest call: an accepted call with `last` set comes after every
accepted call at offset 0. -/
def closedSince : List Entry → Bool
  | [] => false
  | (c, accepted) :: older =>
    if accepted ∧ c.last then true
    else if accepted ∧ c.offset = 0 then false
    else closedSince older

/-- Every accepted call at a non-zero offset continues the upload that the most recent call at
offset 0 opened and that call was accepted, at exactly the bytes accepted since. -/
def Tiled : List Entry → Prop
  | [] => True
  | (c, accepted) :: older =>
    (accepted → c.offset ≠ 0 → sessionBytes older = some c.offset) ∧ Tiled older

/-- No call at a non-zero offset is accepted after an accepted last chunk until an upload is
opened again at offset 0. -/
def NoWriteAfterLast : List Entry → Prop
  | [] => True
  | (c, accepted) :: older => (accepted → c.offset ≠ 0 → closedSince older = false) ∧
    NoWriteAfterLast older

instance decTiled : DecidablePred Tiled
  | [] => isTrue trivial
  | (c, accepted) :: older =>
    haveI := decTiled older
    inferInstanceAs (Decidable ((accepted → c.offset ≠ 0 → sessionBytes older = some c.offset) ∧
      Tiled older))

instance decNoWriteAfterLast : DecidablePred NoWriteAfterLast
  | [] => isTrue trivial
  | (c, accepted) :: older =>
    haveI := decNoWriteAfterLast older
    inferInstanceAs (Decidable ((accepted → c.offset ≠ 0 → closedSince older = false) ∧
      NoWriteAfterLast older))

/-- Failures without effect on the session: a failed `flash_img_init_id` leaves the counter at 0
and a failed `flash_img_buffered_write` leaves it as it was. -/
def Benign (o : WriteOutcome) : Prop :=
  (∀ after, o.init = .fail after → ∀ n, after n = 0) ∧
  (∀ after, o.write = .fail after → ∀ n, after n = n)

/-- The counter is the byte count of the open upload, 0 when none is open, and in the heap build
it is 0 while the last upload is closed. The static context is never NULL. -/
def CtxInv (heap : Bool) (ctx : Option Nat) (hist : List Entry) : Prop :=
  (heap = false → ctx.isSome) ∧
  ∀ n, ctx = some n → n = (sessionBytes hist).getD 0 ∧ (heap = true → closedSince hist = true → n = 0)

section Step
variable {o : WriteOutcome} {c : WriteCall}

theorem flashImgInitId_benign (hb : Benign o) (counter : Nat) :
    ∃ ok, flashImgInitId o.init counter = (ok, 0) := by
  cases h : o.init with
  | ok => exact ⟨true, rfl⟩
  | fail after => exact ⟨false, by simp [flashImgInitId, hb.1 after h]⟩

theorem flashImgBufferedWrite_benign (hb : Benign o) (numBytes counter : Nat) :
    flashImgBufferedWrite numBytes o.write counter = (true, counter + numBytes) ∨
      flashImgBufferedWrite numBytes o.write counter = (false, counter) := by
  cases h : o.write with
  | ok => exact .inl rfl
  | fail after => exact .inr (by simp [flashImgBufferedWrite, hb.2 after h])

theorem writeToCtx_benign (hb : Benign o) (counter : Nat) :
    (writeToCtx o c counter = (.ok (), c.offset + c.numBytes) ∧
      (c.offset = 0 ∨ c.offset = counter)) ∨
    writeToCtx o c counter = (.error .eunknown, if c.offset = 0 then 0 else counter) := by
  unfold writeToCtx
  by_cases h0 : c.offset = 0
  · obtain ⟨ok, hi⟩ := flashImgInitId_benign hb counter
    rw [if_pos h0, hi]
    cases ok
    · simp [h0]
    · rcases flashImgBufferedWrite_benign hb c.numBytes 0 with hw | hw <;> simp [hw, h0]
  · rw [if_neg h0]
    by_cases hc : c.offset = counter
    · subst hc
      rcases flashImgBufferedWrite_benign hb c.numBytes c.offset with hw | hw <;> simp [hw, h0]
    · simp [hc, h0]

variable {heap : Bool} {ctx : Option Nat} {hist : List Entry} {n n' : Nat} {r : Except MgmtErr Unit}

theorem writeToCtx_session (hb : Benign o) (hn : c.offset = 0 ∨ n = (sessionBytes hist).getD 0)
    (h : writeToCtx o c n = (r, n')) :
    n' = (sessionBytes ((c, r.isOk) :: hist)).getD 0 ∧
      (r.isOk = true → c.offset ≠ 0 → sessionBytes hist = some c.offset) := by
  rcases writeToCtx_benign (c := c) hb n with ⟨hw, hc⟩ | hw <;> rw [hw, Prod.mk.injEq] at h <;>
    obtain ⟨rfl, rfl⟩ := h <;> by_cases h0 : c.offset = 0
  · simp [sessionBytes, h0]
  · have hg : (sessionBytes hist).getD 0 = c.offset := by
      rw [← hn.resolve_left h0, hc.resolve_left h0]
    have hs : sessionBytes hist = some c.offset := by
      cases hsb : sessionBytes hist with
      | none => rw [hsb] at hg; exact absurd hg.symm h0
      | some v => rw [hsb] at hg; rw [← hg]; rfl
    simp [sessionBytes, h0, hs]
  · simp [sessionBytes, h0]
  · simp [sessionBytes, h0, hn.resolve_left h0]

theorem writeToCtx_closed (hb : Benign o) (hn : c.offset = 0 ∨ (closedSince hist = true → n = 0))
    (h : writeToCtx o c n = (r, n')) :
    (closedSince ((c, r.isOk) :: hist) = true → (r.isOk = true ∧ c.last = true) ∨ n' = 0) ∧
      (r.isOk = true → c.offset ≠ 0 → closedSince hist = false) := by
  rcases writeToCtx_benign (c := c) hb n with ⟨hw, hc⟩ | hw <;> rw [hw, Prod.mk.injEq] at h <;>
    obtain ⟨rfl, rfl⟩ := h <;> by_cases h0 : c.offset = 0
  · simp [closedSince, h0]
    exact Or.inl
  · have hcl : closedSince hist = false := by
      cases hcs : closedSince hist
      · rfl
      · exact absurd (hc.resolve_left h0 ▸ hn.resolve_left h0 hcs) h0
    simp [closedSince, h0, hcl]
  · simp [closedSince, h0]
  · simpa [closedSince, h0] using hn.resolve_left h0

theorem write_step (hb : Benign o) (hi : CtxInv heap ctx hist) {ctx' : Option Nat}
    (h : imgMgmtImplWriteImageData heap o c ctx = (r, ctx')) :
    CtxInv heap ctx' ((c, r.isOk) :: hist) ∧
      (r.isOk = true → c.offset ≠ 0 →
        sessionBytes hist = some c.offset ∧ (heap = true → closedSince hist = false)) := by
  obtain ⟨hsome, hn⟩ := hi
  cases heap with
  | false =>
    obtain ⟨n, rfl⟩ := Option.isSome_iff_exists.1 (hsome rfl)
    simp only [imgMgmtImplWriteImageData, Option.getD_some, Bool.false_eq_true, if_false,
      Prod.mk.injEq] at h
    obtain ⟨rfl, rfl⟩ := h
    obtain ⟨hs, hlaw⟩ := writeToCtx_session hb (.inr (hn n rfl).1) rfl
    exact ⟨⟨fun _ => rfl, fun k hk => ⟨Option.some.inj hk ▸ hs, by simp⟩⟩,
      fun hok h0 => ⟨hlaw hok h0, by simp⟩⟩
  | true =>
    simp only [imgMgmtImplWriteImageData, if_true] at h
    by_cases hnone : c.offset ≠ 0 ∧ ctx = none
    · rw [if_pos hnone, Prod.mk.injEq] at h
      obtain ⟨rfl, rfl⟩ := h
      exact ⟨⟨by simp, by simp [hnone.2]⟩, by simp⟩
    rw [if_neg hnone] at h
    cases hm : (if c.offset = 0 ∧ ctx = none then o.malloc else ctx) with
    | none =>
      rw [hm, Prod.mk.injEq] at h
      obtain ⟨rfl, rfl⟩ := h
      exact ⟨⟨by simp, by simp⟩, by simp⟩
    | some m =>
      have hctx : c.offset = 0 ∨ ctx = some m := by
        by_cases h0 : c.offset = 0
        · exact .inl h0
        · exact .inr (by rwa [if_neg fun h' => h0 h'.1] at hm)
      have hs0 : c.offset = 0 ∨ m = (sessionBytes hist).getD 0 :=
        hctx.imp_right fun hc => (hn m hc).1
      have hc0 : c.offset = 0 ∨ (closedSince hist = true → m = 0) :=
        hctx.imp_right fun hc => (hn m hc).2 rfl
      rw [hm] at h
      dsimp only at h
      cases hw : writeToCtx o c m with
      | mk r1 m' =>
        obtain ⟨hs, hlaw⟩ := writeToCtx_session hb hs0 hw
        obtain ⟨hcl, hlawc⟩ := writeToCtx_closed hb hc0 hw
        rw [hw] at h
        have hres : r = r1 ∧ ctx' = if r1.isOk = true ∧ c.last = true then none else some m' := by
          cases r1 with
          | ok u => cases u; dsimp only at h; rw [Prod.mk.injEq] at h; simp [← h.1, ← h.2]
          | error e => dsimp only at h; rw [Prod.mk.injEq] at h; simp [← h.1, ← h.2]
        obtain ⟨rfl, rfl⟩ := hres
        refine ⟨⟨by simp, fun k hk => ?_⟩, fun hok h0 => ⟨hlaw hok h0, fun _ => hlawc hok h0⟩⟩
        split_ifs at hk with hl
        obtain rfl := Option.some.inj hk
        exact ⟨hs, fun _ hc => (hcl hc).resolve_left hl⟩

end Step

theorem initCtx_inv (heap : Bool) : CtxInv heap (initCtx heap) [] := by
  cases heap <;> simp [CtxInv, initCtx, sessionBytes]

theorem benign_ok (malloc : Option Nat) : Benign ⟨malloc, .ok, .ok⟩ := by
  simp [Benign]

theorem runWrites_inv (heap : Bool) (calls : List (WriteOutcome × WriteCall))
    (hb : ∀ oc ∈ calls, Benign oc.1) (ctx : Option Nat) (hist : List Entry)
    (hi : CtxInv heap ctx hist) (ht : Tiled hist) (hl : heap = true → NoWriteAfterLast hist) :
    let s := runWrites heap (ctx, hist) calls
    CtxInv heap s.1 s.2 ∧ Tiled s.2 ∧ (heap = true → NoWriteAfterLast s.2) := by
  induction calls generalizing ctx hist with
  | nil => exact ⟨hi, ht, hl⟩
  | cons oc rest ih =>
    obtain ⟨o, c⟩ := oc
    obtain ⟨hinv, hlaw⟩ := write_step (hb _ (List.mem_cons_self _ _)) hi rfl
    exact ih (fun oc h => hb oc (List.mem_cons_of_mem _ h)) _ _ hinv
      ⟨fun hok h0 => (hlaw hok h0).1, ht⟩ fun hh => ⟨fun hok h0 => (hlaw hok h0).2 hh, hl hh⟩

/-- When failed initialisations leave the counter at 0 and failed writes leave it as it was,
every chunk accepted at a non-zero offset continues the upload opened by the most recent call at
offset 0, which was accepted, exactly at the bytes accepted since; in the heap build none is
accepted after an accepted last chunk until an upload is opened again. -/
theorem writeImageData_tiled (heap : Bool) (calls : List (WriteOutcome × WriteCall))
    (hb : ∀ oc ∈ calls, Benign oc.1) :
    Tiled (runWrites heap (initCtx heap, []) calls).2 ∧
      (heap = true → NoWriteAfterLast (runWrites heap (initCtx heap, []) calls).2) :=
  (runWrites_inv heap calls hb _ [] (initCtx_inv heap) trivial fun _ => trivial).2

theorem writeImageData_tiled_upload :
    let calls : List (WriteOutcome × WriteCall) :=
      [(⟨some 0, .ok, .ok⟩, ⟨0, 100, false⟩), (⟨none, .ok, .ok⟩, ⟨100, 28, true⟩)]
    (∀ oc ∈ calls, Benign oc.1) ∧ Tiled (runWrites true (initCtx true, []) calls).2 ∧
      (true = true → NoWriteAfterLast (runWrites true (initCtx true, []) calls).2) := by
  intro calls
  have hb : ∀ oc ∈ calls, Benign oc.1 := by
    simp only [calls, List.mem_cons, List.mem_singleton, List.not_mem_nil, or_false]
    rintro oc (rfl | rfl) <;> exact benign_ok _
  exact ⟨hb, writeImageData_tiled true calls hb⟩

/-- Either failure breaks the law in both builds: a failed re-initialisation that keeps the
counter lets the previous upload go on, and a failed write that has advanced the counter moves
the next accepted offset past the accepted bytes. -/
theorem writeImageData_failure_breaks_session :
    let reinit : List (WriteOutcome × WriteCall) :=
      [(⟨some 0, .ok, .ok⟩, ⟨0, 7, false⟩), (⟨none, .fail id, .ok⟩, ⟨0, 5, false⟩),
        (⟨none, .ok, .ok⟩, ⟨7, 3, false⟩)]
    let advanced : List (WriteOutcome × WriteCall) :=
      [(⟨some 0, .ok, .ok⟩, ⟨0, 50, false⟩), (⟨none, .ok, .fail fun k => k + 100⟩, ⟨50, 100, false⟩),
        (⟨none, .ok, .ok⟩, ⟨150, 10, false⟩)]
    (¬Tiled (runWrites false (initCtx false, []) reinit).2 ∧
      ¬Tiled (runWrites true (initCtx true, []) reinit).2) ∧
    (¬Tiled (runWrites false (initCtx false, []) advanced).2 ∧
      ¬Tiled (runWrites true (initCtx true, []) advanced).2) := by
  dsimp only
  decide

/-! ## The heap build against the static build

The two builds differ only in where `ctx` lives. Over calls whose collaborators fail without
effect on the session and whose `k_malloc` succeeds, they answer every call alike but one kind:
a chunk at a non-zero offset after an accepted last chunk, which the heap build refuses (its
context is freed) and the static build may take at the counter it kept
(`writeImageData_heap_static`). -/

/-- The histories of the heap build (`hs`) and of the static build (`ss`) over the same calls: each
call is answered alike, except that the static build may take a chunk at a non-zero offset that
the heap build refuses after an accepted last chunk closed the upload. -/
def HeapStaticAgree : List Entry → List Entry → Prop
  | [], [] => True
  | (c, a) :: hs, (c', a') :: ss =>
    c = c' ∧ (a = a' ∨ (a = false ∧ a' = true ∧ c.offset ≠ 0 ∧ closedSince hs = true)) ∧
      HeapStaticAgree hs ss
  | _, _ => False

instance decHeapStaticAgree : ∀ hs ss, Decidable (HeapStaticAgree hs ss)
  | [], [] => isTrue trivial
  | [], _ :: _ => isFalse id
  | _ :: _, [] => isFalse id
  | (c, a) :: hs, (c', a') :: ss =>
    haveI := decHeapStaticAgree hs ss
    inferInstanceAs (Decidable (c = c' ∧ (a = a' ∨ (a = false ∧ a' = true ∧ c.offset ≠ 0 ∧
      closedSince hs = true)) ∧ HeapStaticAgree hs ss))

section HeapStatic
variable {o : WriteOutcome} {c : WriteCall}

end HeapStatic

end McuMgr.WriteImage
