import Http3.ConnectionState
import Http3.PendingWrite
import Http3.ServerConnections

/-! DRAIN events: the streams drained in a batch, and in a loop that retries pending writes. -/

namespace Http3

/-- Every DRAIN of the batch is about a stream that is `idle`. -/
def Drains (idle : ℕ → ℕ → Prop) (batch : List Emitted) : Prop :=
  ∀ e ∈ batch, e.event.eventType = .drain →
    ∃ ref, e.owner = some ref ∧ idle ref.slot e.event.streamId.toNat

namespace Drains

variable {idle idle' : ℕ → ℕ → Prop} {batch : List Emitted}

theorem nil (idle : ℕ → ℕ → Prop) : Drains idle [] := by
  intro e he
  cases he

theorem mono (himp : ∀ slot streamId, idle slot streamId → idle' slot streamId)
    (h : Drains idle batch) : Drains idle' batch := by
  intro e he hdrain
  obtain ⟨ref, howner, hidle⟩ := h e he hdrain
  exact ⟨ref, howner, himp _ _ hidle⟩

theorem push {e : Emitted} (h : Drains idle batch) (he : e.event.eventType ≠ .drain) :
    Drains idle (batch ++ [e]) := by
  intro x hx hdrain
  rcases List.mem_append.1 hx with hx | hx
  · exact h x hx hdrain
  · rw [List.mem_singleton.1 hx] at hdrain
    exact absurd hdrain he

theorem push_drain {ref : ConnRef} {connHandle : UInt32} {streamId : ℕ} (h : Drains idle batch)
    (hidle : idle ref.slot streamId) :
    Drains idle (pushFor ref (.drain connHandle streamId) batch) := by
  intro x hx hdrain
  rcases List.mem_append.1 hx with hx | hx
  · exact h x hx hdrain
  · rw [List.mem_singleton.1 hx]
    exact ⟨ref, rfl, hidle⟩

theorem foldl_push {α : Type} {ref : ConnRef} {event : α → JsH3Event}
    (hevent : ∀ a, (event a).eventType ≠ .drain) (as : List α) (h : Drains idle batch) :
    Drains idle (as.foldl (fun batch a => pushFor ref (event a) batch) batch) := by
  induction as generalizing batch with
  | nil => exact h
  | cons a as ih => exact ih (h.push (hevent a))

theorem suppress {new : List Emitted} {ref : ConnRef} {connHandle : UInt32} {waits : ℕ → Bool}
    (h : Drains idle batch) (hgrows : Grows (Polls ref connHandle) batch new)
    (hidle : ∀ streamId, waits streamId = false → idle ref.slot streamId) :
    Drains idle (new.filter fun e => e.event.eventType ≠ .drain ||
      e.event.connHandle ≠ connHandle || !waits e.event.streamId.toNat) := by
  have hnew : ∀ e ∈ new, (e.event.eventType = .drain →
      ∃ ref, e.owner = some ref ∧ idle ref.slot e.event.streamId.toNat) ∨
      (e.owner = some ref ∧ e.event.connHandle = connHandle) := by
    refine hgrows.forall_mem ?_ ?_ fun e he => .inl (h e he)
    · exact fun e he => .inr ⟨he.1, he.2.1⟩
    · exact fun e d he => he
  intro e he hdrain
  obtain ⟨hmem, hkeep⟩ := List.mem_filter.1 he
  rcases hnew e hmem with hold | ⟨howner, hhandle⟩
  · exact hold hdrain
  · have hwaits : waits e.event.streamId.toNat = false := by
      simpa [hdrain, hhandle] using hkeep
    exact ⟨ref, howner, hidle _ hwaits⟩

theorem routeAndAnnounce {C Q : Type} [Quiche Q] [ServerConnection C Q] {disableRetry : Bool}
    {handleOffset : UInt32} {hdr : PacketHeader} {p : Packet} {now : ℕ} {scids : List Bytes}
    {m : ConnectionMap C} (h : Drains idle batch) :
    Drains idle (m.routeAndAnnounce disableRetry handleOffset hdr p now scids batch).2.2 := by
  unfold ConnectionMap.routeAndAnnounce
  split
  · exact h
  · exact h.push (by simp [JsH3Event.newSession])
  · exact h

end Drains

/-- A retry loop that began with these `writes`: no others wait, and the entries it has drained,
all of them `ok`, were among them and do not wait any more. -/
structure DrainedOf {K A : Type} [DecidableEq K] (key : A → K) (ok : A → Prop)
    (writes pending : KeyMap K PendingWrite) (drained : List A) : Prop where
  waiting : ∀ k, (pending.lookup k).isSome → (writes.lookup k).isSome
  drained : ∀ a ∈ drained, ok a ∧ pending.lookup (key a) = none ∧ (writes.lookup (key a)).isSome

namespace DrainedOf

variable {K A : Type} [DecidableEq K] {key : A → K} {ok : A → Prop}
  {writes pending : KeyMap K PendingWrite} {drained : List A}

theorem start : DrainedOf key ok writes writes [] := ⟨fun _ h => h, nofun⟩

theorem erase (h : DrainedOf key ok writes pending drained) (k : K) :
    DrainedOf key ok writes (pending.erase k) drained := by
  refine ⟨fun k' hk' => h.waiting k' (KeyMap.isSome_of_erase hk'), fun a ha => ?_⟩
  obtain ⟨hok, hgone, hwas⟩ := h.drained a ha
  refine ⟨hok, ?_, hwas⟩
  by_cases hk : key a = k
  · rw [hk]
    exact AList.lookup_erase k _
  · exact (AList.lookup_erase_ne hk).trans hgone

theorem drain (h : DrainedOf key ok writes pending drained) {a : A} (ha : ok a)
    (hw : (pending.lookup (key a)).isSome) :
    DrainedOf key ok writes (pending.erase (key a)) (drained ++ [a]) := by
  refine ⟨(h.erase (key a)).waiting, fun b hb => ?_⟩
  rcases List.mem_append.1 hb with hb | hb
  · exact (h.erase (key a)).drained b hb
  · rw [List.mem_singleton.1 hb]
    exact ⟨ha, AList.lookup_erase _ _, h.waiting _ hw⟩

theorem retain (h : DrainedOf key ok writes pending drained) {k : K}
    (hw : (pending.lookup k).isSome) (write : PendingWrite) :
    DrainedOf key ok writes (pending.insert k write) drained := by
  refine ⟨fun k' hk' => ?_, fun a ha => ?_⟩
  · by_cases hk : k' = k
    · exact h.waiting k' (hk ▸ hw)
    · exact h.waiting k' (by rwa [AList.lookup_insert_ne hk] at hk')
  · obtain ⟨hok, hgone, hwas⟩ := h.drained a ha
    have hk : key a ≠ k := by
      rintro rfl
      rw [hgone] at hw
      cases hw
    exact ⟨hok, (AList.lookup_insert_ne hk).trans hgone, hwas⟩

end DrainedOf

end Http3
