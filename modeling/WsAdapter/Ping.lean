import WsAdapter.Notify

/-!
The life of one `Ping` call over a run.

A `Ping` sends its slot on `pingRequests` after its critical section and before
it writes its frame. Once it has, it stays a call that has sent its slot,
whatever it returns afterwards: the failure of its frame write, what a scan
hands it, or its context's error once its frame has gone out. A call that has
returned keeps its result; the only step that still touches it is the end of
its context.
-/

namespace WsAdapter

open GorillaWebsocketConnectionAdapter

variable {s s' : GorillaWebsocketConnectionAdapter} {e : Event} {p : PingId}

namespace PingCall

/-- The call has sent its slot on `pingRequests`: it is between the send and
its return, or it returned after the send, with the failure of its frame
write, nil, a `WebsocketCloseError`, or its context's error once its frame
went out (`sentOn`). The other returns, the context's error at the first
select or at registration and the error of a missing connection, come before
the send. -/
def slotSent (c : PingCall) : Bool :=
  match c.phase with
  | .start | .locking | .registering _ => false
  | .sending _ | .sent _ | .waiting _ => true
  | .returned (some .contextDone) => c.sentOn.isSome
  | .returned (some (.errorf _)) | .returned (some (.transport _)) => false
  | .returned none | .returned (some (.pingFailed _)) | .returned (some (.closeError _)) => true

end PingCall

/-- A `Ping` that has sent its slot stays so. -/
theorem slotSent_step (h : s.step e = some s') {x : PingId} {c : PingCall}
    (hc : s.pings[x]? = some c) (hsane : c.Sane) (hsent : c.slotSent = true) :
    ∃ c', s'.pings[x]? = some c' ∧ c'.slotSent = true := by
  rcases step_ping_at h hc with he | ⟨c', q, hm, he⟩ | ⟨-, k, sig, -, he⟩
  · exact ⟨c, he, hsent⟩
  · refine ⟨c', he, ?_⟩
    cases hm with
    | cancel => exact hsent
    | written | writeFailed => rfl
    | park k hph => cases c.ctxDone <;> simp [PingCall.slotSent, hsane.sent k (.inl hph)]
    | contextDone hph _ =>
      cases hp : c.phase with
      | waiting k => simp [PingCall.slotSent, hsane.sent k (.inr hp)]
      | _ => simp [hp, PingPhase.isRegistering, PingPhase.isWaiting, PingCall.slotSent] at hph hsent
    | start hph | lock hph _ | register k hph _ => simp [PingCall.slotSent, hph] at hsent
  · exact ⟨_, he, by cases sig <;> rfl⟩

/-- A returned `Ping` keeps its call as it is, except that its context may end. -/
theorem returned_step {c : PingCall} {r : Option AdapterError} (hc : s.pings[p]? = some c)
    (hr : c.phase = .returned r) (h : s.step e = some s') :
    s'.pings[p]? = some c ∨ s'.pings[p]? = some { c with ctxDone := true } := by
  rcases step_ping_at h hc with he | ⟨c', q, hm, he⟩ | ⟨-, k, sig, hw, -⟩
  · exact .inl he
  · cases hm <;> first
      | exact .inr he
      | simp_all [PingPhase.isRegistering, PingPhase.isWaiting]
  · rw [hr] at hw; cases hw

theorem returned_run {evs : List Event} {c : PingCall} {r : Option AdapterError}
    (hc : s.pings[p]? = some c) (hr : c.phase = .returned r) (h : s.run evs = some s') :
    s'.pings[p]? = some c ∨ s'.pings[p]? = some { c with ctxDone := true } := by
  induction evs generalizing s c with
  | nil => cases h; exact .inl hc
  | cons e es ih =>
    obtain ⟨t, ht, h⟩ := Option.bind_eq_some.mp h
    rcases returned_step hc hr ht with hc' | hc'
    · exact ih hc' hr h
    · exact .inr ((ih hc' hr h).elim id id)

end WsAdapter
