import Mathlib.Algebra.Order.BigOperators.Group.Finset
import WsAdapter.Moves

/-!
How many notifications a reply slot receives, and how many `Ping` calls
return nil.

A scan hands its signal only to a `Ping` that is parked on its slot, and the
hand-over makes that call return: so a slot is notified at most once, whatever
the interleaving. Only `pongHandler`'s scan hands over nil, and it stops at its
first hand-over: so each pong handled is held by one party at most, the call
that returned nil for it or the `Read` still running its scan, and summing
over the pongs, the calls that returned nil are never more than the pongs
handled.
-/

namespace WsAdapter

open GorillaWebsocketConnectionAdapter

namespace PingPhase

def isReturned : PingPhase → Bool
  | .returned _ => true
  | _ => false

end PingPhase

namespace PingCall

variable {c c' : PingCall}

/-- What holds of every `Ping` call of a reachable state: its slot has been
notified at most once, and only if the call has returned; a call that has
written its frame knows the connection it went out on; and a call that returned
nil wrote its frame and was handed nil by the scan of some pong. -/
structure Sane (c : PingCall) : Prop where
  notified : c.notified = 0 ∨ (c.notified = 1 ∧ c.phase.isReturned = true)
  sent : ∀ k, (c.phase = .sent k ∨ c.phase = .waiting k) → c.sentOn = some k
  ok : c.phase = .returned none → c.sentOn.isSome ∧ c.pongFrom.isSome

theorem sane_start (ctxDone : Bool) : Sane { phase := .start, ctxDone } :=
  ⟨.inl rfl, by simp, by simp⟩

theorem Sane.notified_eq_zero (hc : c.Sane) (h : c.phase.isReturned = false) :
    c.notified = 0 := by
  rcases hc.notified with h' | ⟨-, h'⟩
  · exact h'
  · simp [h] at h'

theorem Sane.move {s : GorillaWebsocketConnectionAdapter} {p : PingId} {q : List PingId}
    (hc : c.Sane) (hm : PingMove s p c c' q) : c'.Sane := by
  cases hm with
  | cancel => exact ⟨hc.notified, hc.sent, hc.ok⟩
  | park k hph =>
    have h0 := hc.notified_eq_zero (by simp [hph, PingPhase.isReturned])
    have hk := hc.sent k (.inl hph)
    cases c.ctxDone <;> exact ⟨.inl h0, by simp [hk], by simp⟩
  | lock hph _ =>
    have h0 := hc.notified_eq_zero (by simp [hph, PingPhase.isReturned])
    cases s.conn <;> exact ⟨.inl h0, by simp, by simp⟩
  | start hph =>
    have h0 := hc.notified_eq_zero (by simp [hph, PingPhase.isReturned])
    cases c.ctxDone <;> exact ⟨.inl h0, by simp, by simp⟩
  | written k hph | register k hph _ | writeFailed k _ hph =>
    exact ⟨.inl (hc.notified_eq_zero (by simp [hph, PingPhase.isReturned])), by simp, by simp⟩
  | contextDone hph _ =>
    have h0 := hc.notified_eq_zero (by
      cases h : c.phase <;> simp_all [PingPhase.isRegistering, PingPhase.isWaiting,
        PingPhase.isReturned])
    exact ⟨.inl h0, by simp, by simp⟩

theorem Sane.deliver {k : ConnId} (hc : c.Sane) (hw : c.phase = .waiting k) (sig : Signal) :
    (c.deliver sig).Sane := by
  have h0 := hc.notified_eq_zero (by simp [hw, PingPhase.isReturned])
  have hk := hc.sent k (.inr hw)
  refine ⟨.inr ⟨by simp [PingCall.deliver, h0], rfl⟩, by simp [PingCall.deliver], ?_⟩
  cases sig <;> simp [PingCall.deliver, Signal.notification, hk]

end PingCall

/-- The call has returned nil. -/
def PingCall.isOk (c : PingCall) : Bool := decide (c.phase = .returned none)

theorem PingMove.isOk_eq {s : GorillaWebsocketConnectionAdapter} {p : PingId} {c c' : PingCall}
    {q : List PingId} (hm : PingMove s p c c' q) : c'.isOk = c.isOk := by
  cases hm <;> (try cases c.ctxDone) <;> (try cases s.conn) <;>
    simp_all [PingCall.isOk, PingPhase.isRegistering, PingPhase.isWaiting] <;>
    cases h : c.phase <;> simp_all

theorem PingCall.isOk_deliver {c : PingCall} {k : ConnId} (hw : c.phase = .waiting k)
    (sig : Signal) :
    (c.deliver sig).isOk = (sig.notification = none) ∧ c.isOk = false := by
  cases sig <;> simp [PingCall.deliver, PingCall.isOk, Signal.notification, hw]

/-- Replacing the entry at `i` changes a count by what the two entries count. -/
theorem countP_set_of_getElem? {α : Type} {l : List α} {i : Nat} {a : α} (f : α → Bool)
    (b : α) (h : l[i]? = some a) :
    (l.set i b).countP f + (if f a then 1 else 0) = l.countP f + (if f b then 1 else 0) := by
  obtain ⟨hi, rfl⟩ := List.getElem?_eq_some_iff.mp h
  have := List.boole_getElem_le_countP f l i hi
  rw [List.countP_set f l i _ hi]
  omega

theorem countP_set_eq {α : Type} {l : List α} {i : Nat} {a : α} (f : α → Bool) (b : α)
    (h : l[i]? = some a) (hf : f b = f a) : (l.set i b).countP f = l.countP f := by
  have := countP_set_of_getElem? f b h
  rw [hf] at this
  omega

variable {s s' : GorillaWebsocketConnectionAdapter} {e : Event}

/-- Every `Ping` call of the adapter is `Sane`. -/
def PingsSane (s : GorillaWebsocketConnectionAdapter) : Prop := ∀ c ∈ s.pings, c.Sane

theorem forall_mem_set {α : Type} {P : α → Prop} {l : List α} {i : Nat} {a : α}
    (hl : ∀ x ∈ l, P x) (ha : P a) : ∀ x ∈ l.set i a, P x :=
  fun x hx => (List.mem_or_eq_of_mem_set hx).elim (hl x) fun h => h ▸ ha

theorem pingsSane_step (hs : PingsSane s) (h : s.step e = some s') : PingsSane s' := by
  unfold PingsSane at *
  rcases step_pings h with he | ⟨b, he⟩ | ⟨p, c, c', q, hc, hm, he⟩ |
    ⟨x, c, k, sig, -, hc, hw, he⟩ <;> rw [he]
  · exact hs
  · intro c hc
    rcases List.mem_append.mp hc with hc | hc
    · exact hs c hc
    · rw [List.mem_singleton.mp hc]
      exact PingCall.sane_start b
  · exact forall_mem_set hs ((hs c (List.getElem?_mem hc)).move hm)
  · exact forall_mem_set hs ((hs c (List.getElem?_mem hc)).deliver hw sig)

theorem pingsSane_of_reachable (hs : Reachable s) : PingsSane s :=
  Reachable.induction (by simp [PingsSane, newGorillaWebsocketConnectionAdapter])
    (fun _ _ _ _ ht h => pingsSane_step ht h) hs

/-! ### Pongs and the calls they release -/

namespace PingCall

/-- The pong whose scan handed nil to a call that returned nil. -/
def credit (c : PingCall) : Option Nat := if c.isOk then c.pongFrom else none

theorem credit_deliver {c : PingCall} {k : ConnId} (hw : c.phase = .waiting k) (sig : Signal)
    (i : Nat) : c.credit ≠ some i ∧ ((c.deliver sig).credit = some i ↔ sig = .pong i) := by
  constructor
  · simp [credit, isOk, hw]
  · cases sig <;> simp [credit, isOk, PingCall.deliver, Signal.notification]

end PingCall

theorem PingMove.credit_eq {s : GorillaWebsocketConnectionAdapter} {p : PingId} {c c' : PingCall}
    {q : List PingId} (hm : PingMove s p c c' q) : c'.credit = c.credit := by
  have hp : c'.pongFrom = c.pongFrom := by cases hm <;> rfl
  simp only [PingCall.credit, hm.isOk_eq, hp]

namespace ReadPhase

/-- The pong whose scan the `Read` is running. -/
def pongIndex : ReadPhase → Option Nat
  | .handling _ (.pong i) _ => some i
  | _ => none

@[simp] theorem pongIndex_reading (k : ConnId) : (ReadPhase.reading k).pongIndex = none := rfl

@[simp] theorem pongIndex_pong (k : ConnId) (j : Nat) (l : Option PingId) :
    (ReadPhase.handling k (.pong j) l).pongIndex = some j := rfl

@[simp] theorem pongIndex_close (k : ConnId) (code : Nat) (text errText : String)
    (l : Option PingId) : (ReadPhase.handling k (.close code text errText) l).pongIndex = none :=
  rfl

@[simp] theorem pongIndex_after (k : ConnId) (hd : Handler) : (hd.after k).pongIndex = none := by
  cases hd <;> rfl

theorem isPongScan_eq (ph : ReadPhase) : ph.isPongScan = ph.pongIndex.isSome := by
  rcases ph with _ | ⟨_, _ | _, _⟩ | _ | _ <;> rfl

theorem pongIndex_eq_none {ph : ReadPhase} (h : ph.isPongScan = false) : ph.pongIndex = none :=
  Option.not_isSome_iff_eq_none.mp (by rw [← isPongScan_eq, h]; decide)

end ReadPhase

/-- The holders of the `i`-th pong handled by `pongHandler`: the calls that
returned nil for it, and the `Read` still running its scan. -/
def pongOwners (s : GorillaWebsocketConnectionAdapter) (i : Nat) : Nat :=
  s.pings.countP (fun c => decide (c.credit = some i)) +
    s.reads.countP (fun ph => decide (ph.pongIndex = some i))

/-- A pong handled has at most one holder, and a pong not yet handled has none. -/
def PongsOwnedOnce (s : GorillaWebsocketConnectionAdapter) : Prop :=
  ∀ i, pongOwners s i ≤ if i < s.pongLog.length then 1 else 0

/-- A scan that ends hands nil for pong `i` to at most one call, and only if it
is the scan of pong `i`. -/
theorem credits_deliver_of_exit (sig : Signal) (i : Nat) {held d : Option PingId}
    (h : scanOp s.parked s.pingRequests held = .exit d) :
    (s.deliver sig d).pings.countP (fun c => decide (c.credit = some i)) ≤
      s.pings.countP (fun c => decide (c.credit = some i)) + if sig = .pong i then 1 else 0 := by
  rcases deliver_pings_of_exit sig h with h | ⟨x, c, k, -, hc, hw, he⟩
  · rw [h]; omega
  · have hcount := countP_set_of_getElem? (fun c => decide (c.credit = some i)) (c.deliver sig) hc
    obtain ⟨h1, h2⟩ := PingCall.credit_deliver hw sig i
    rw [he]
    simp only [h1, h2, decide_False, decide_eq_true_eq] at hcount
    split_ifs at hcount ⊢ <;> omega

theorem pongsOwnedOnce_step (hs : PongsOwnedOnce s) (h : s.step e = some s') :
    PongsOwnedOnce s' := by
  intro i
  have hi := hs i
  have hread : ∀ {r : Nat} {a : ReadPhase} (b : ReadPhase), s.reads[r]? = some a →
      b.pongIndex = a.pongIndex → pongOwners (s.setRead r b) i = pongOwners s i :=
    fun b hr hab => by
      simp [pongOwners, countP_set_eq (fun ph : ReadPhase => decide (ph.pongIndex = some i)) b hr
        (by simp only [hab])]
  cases Transition.of_step h with
  | pingCall b => simpa [pongOwners, pingCall, PingCall.credit, PingCall.isOk] using hi
  | @ping _ p c c' q _ hc hm =>
    simpa [pongOwners, countP_set_eq (fun c => decide (c.credit = some i)) c' hc
      (by simp only [hm.credit_eq])] using hi
  | readCall _ ph hph _ => simpa [pongOwners, ReadPhase.pongIndex_eq_none hph] using hi
  | readMessage r k f ph hk hph _ =>
    exact (hread ph hk (ReadPhase.pongIndex_eq_none hph)).trans_le hi
  | readPong r k hk =>
    have := countP_set_of_getElem? (fun ph : ReadPhase => decide (ph.pongIndex = some i))
      (.handling k (.pong s.pongLog.length) none) hk
    simp only [ReadPhase.pongIndex_reading, ReadPhase.pongIndex_pong, Option.some.injEq,
      reduceCtorEq, decide_False, decide_eq_true_eq] at this
    simp only [pongOwners, setRead, List.length_append, List.length_singleton] at hi ⊢
    split_ifs at hi this ⊢ <;> omega
  | readScan r k hd held q l hr _ =>
    exact (hread (.handling k hd l) hr (by cases hd <;> rfl)).trans_le hi
  | readScanExit r k hd held d hr hx =>
    have hp := credits_deliver_of_exit hd.signal i hx
    have hr' := countP_set_of_getElem? (fun ph : ReadPhase => decide (ph.pongIndex = some i))
      (hd.after k) hr
    have hsig : hd.signal = .pong i ↔ (ReadPhase.handling k hd held).pongIndex = some i := by
      cases hd <;> simp [Handler.signal, pongHandler, closeHandler]
    simp only [hsig] at hp
    simp [ReadPhase.pongIndex_after] at hr'
    simp only [pongOwners, setRead, deliver_reads, deliver_pongLog] at hi ⊢
    split_ifs at hp hr' <;> omega
  | readUnbind r k ce hr =>
    exact (hread (.returned (-1) [] (some (.closeError ce))) hr rfl).trans_le hi
  | closeScanExit k ce werr held d _ hx =>
    have hp := credits_deliver_of_exit (.close ce) i hx
    simp only [reduceCtorEq, if_false, Nat.add_zero] at hp
    simp only [pongOwners, setClose, deliver_reads, deliver_pongLog] at hi ⊢
    omega
  | _ => exact hi

theorem pongsOwnedOnce_of_reachable (hs : Reachable s) : PongsOwnedOnce s :=
  Reachable.induction (fun i => by simp [pongOwners, newGorillaWebsocketConnectionAdapter])
    (fun _ _ _ _ ht h => pongsOwnedOnce_step ht h) hs

theorem PongsOwnedOnce.lt (hs : PongsOwnedOnce s) {i : Nat} (h : 0 < pongOwners s i) :
    i < s.pongLog.length := by
  have := hs i
  split_ifs at this with hi
  · exact hi
  · omega

/-- Counting the entries that carry a key is summing, over the keys, the
entries that carry each one. -/
theorem countP_isSome_eq_sum {α : Type} (key : α → Option Nat) (n : Nat) (l : List α)
    (h : ∀ a ∈ l, ∀ i, key a = some i → i < n) :
    l.countP (fun a => (key a).isSome) =
      ∑ i ∈ Finset.range n, l.countP (fun a => decide (key a = some i)) := by
  induction l with
  | nil => simp
  | cons a l ih =>
    simp only [List.countP_cons, Finset.sum_add_distrib,
      ih fun b hb => h b (List.mem_cons_of_mem a hb)]
    congr 1
    cases hk : key a with
    | none => simp
    | some j => simp [Finset.sum_ite_eq, h a (List.mem_cons_self a l) j hk]

/-- The `Ping` calls that have returned nil. -/
def okCount (s : GorillaWebsocketConnectionAdapter) : Nat := s.pings.countP PingCall.isOk

/-- The `Read` calls running the scan of `pongHandler`. -/
def pongScans (s : GorillaWebsocketConnectionAdapter) : Nat := s.reads.countP ReadPhase.isPongScan

/-- The calls that returned nil and the pong scans still running are never
more than the pongs handled: each of them holds a pong of its own. -/
theorem okCount_add_pongScans_le (hsane : PingsSane s) (hs : PongsOwnedOnce s) :
    okCount s + pongScans s ≤ s.pongLog.length := by
  have hok : okCount s = s.pings.countP (fun c => c.credit.isSome) :=
    List.countP_congr fun c hc => by
      have := (hsane c hc).ok
      by_cases h : c.isOk <;> simp_all [PingCall.credit, PingCall.isOk]
  have hscan : pongScans s = s.reads.countP (fun ph => ph.pongIndex.isSome) :=
    List.countP_congr fun ph _ => by rw [ReadPhase.isPongScan_eq]
  have owned : ∀ i, 0 < pongOwners s i → i < s.pongLog.length := fun _ => hs.lt
  calc okCount s + pongScans s
      = ∑ i ∈ Finset.range s.pongLog.length, pongOwners s i := by
        rw [hok, hscan, countP_isSome_eq_sum _ _ _ fun c hc i hi => owned i ?_,
          countP_isSome_eq_sum _ _ _ fun ph hph i hi => owned i ?_, ← Finset.sum_add_distrib]
        · rfl
        · exact Nat.lt_add_left _ (List.countP_pos_iff.mpr ⟨ph, hph, by simpa using hi⟩)
        · exact Nat.lt_add_right _ (List.countP_pos_iff.mpr ⟨c, hc, by simpa using hi⟩)
    _ ≤ ∑ _i ∈ Finset.range s.pongLog.length, 1 :=
        Finset.sum_le_sum fun i hi => by simpa [Finset.mem_range.mp hi] using hs i
    _ = s.pongLog.length := by simp

/-- In every reachable state each reply slot has received at most one
notification, and the `Ping` calls that returned nil are at most the pongs
handled by `pongHandler`. -/
theorem notified_le_one_and_okCount_le_pongs (hs : Reachable s) :
    (∀ c ∈ s.pings, c.notified ≤ 1) ∧ okCount s ≤ s.pongLog.length := by
  refine ⟨fun c hc => ?_, ?_⟩
  · rcases (pingsSane_of_reachable hs c hc).notified with h | ⟨h, -⟩ <;> omega
  · have := okCount_add_pongScans_le (pingsSane_of_reachable hs) (pongsOwnedOnce_of_reachable hs)
    omega

/-- A `Ping` whose pong comes back on the connection it pinged. -/
def pingEcho : List Event :=
  [.dial false (some 101) none, .readCall false, .pingCall false, .pingProceed 0,
    .pingProceed 0, .pingProceed 0, .pingWrite 0 none, .pingProceed 0,
    .readIncoming 0 .pong, .readProceed 0, .readProceed 0]

theorem notified_le_one_and_okCount_le_pongs_echo :
    ∃ s, newGorillaWebsocketConnectionAdapter.run pingEcho = some s ∧ okCount s = 1 ∧
      ((∀ c ∈ s.pings, c.notified ≤ 1) ∧ okCount s ≤ s.pongLog.length) :=
  ⟨_, rfl, by decide, notified_le_one_and_okCount_le_pongs ⟨pingEcho, rfl⟩⟩

/-- A count meets two entries at different positions. -/
theorem two_le_countP {α : Type} {l : List α} (f : α → Bool) (z : α) {p q : Nat} {a b : α}
    (hpq : p ≠ q) (ha : l[p]? = some a) (hb : l[q]? = some b) (hfa : f a = true)
    (hfb : f b = true) (hz : f z = false) : 2 ≤ l.countP f := by
  have hset := countP_set_of_getElem? f z ha
  have hpos : 0 < (l.set p z).countP f :=
    List.countP_pos_iff.mpr ⟨b, List.getElem?_mem (by rwa [List.getElem?_set_ne hpq]), hfb⟩
  simp only [hfa, hz, if_true, Bool.false_eq_true, if_false] at hset
  omega

/-- Every `Ping` that returned nil wrote its frame and was handed nil by the
scan of a pong handled by `pongHandler`, and no two of them by the scan of the
same pong. -/
theorem ok_pings_credited_to_distinct_pongs (hs : Reachable s) :
    (∀ (p : PingId) (c : PingCall), s.pings[p]? = some c → c.phase = .returned none →
      c.sentOn.isSome ∧ ∃ i < s.pongLog.length, c.pongFrom = some i) ∧
    ∀ (p q : PingId) (c d : PingCall), s.pings[p]? = some c → s.pings[q]? = some d →
      c.phase = .returned none → d.phase = .returned none → c.pongFrom = d.pongFrom → p = q := by
  have hown := pongsOwnedOnce_of_reachable hs
  have credited : ∀ {p : PingId} {c : PingCall}, s.pings[p]? = some c → c.phase = .returned none →
      c.sentOn.isSome ∧ ∃ i, c.pongFrom = some i ∧ c.credit = some i := fun hc hok => by
    obtain ⟨hsent, hpong⟩ := (pingsSane_of_reachable hs _ (List.getElem?_mem hc)).ok hok
    obtain ⟨i, hi⟩ := Option.isSome_iff_exists.mp hpong
    exact ⟨hsent, i, hi, by simp [PingCall.credit, PingCall.isOk, hok, hi]⟩
  refine ⟨fun p c hc hok => ?_, fun p q c d hc hd hokc hokd hpf => ?_⟩
  · obtain ⟨hsent, i, hi, hcr⟩ := credited hc hok
    exact ⟨hsent, i, hown.lt (Nat.lt_add_right _
      (List.countP_pos_iff.mpr ⟨c, List.getElem?_mem hc, by simpa using hcr⟩)), hi⟩
  · by_contra hpq
    obtain ⟨-, i, hi, hc'⟩ := credited hc hokc
    obtain ⟨-, j, hj, hd'⟩ := credited hd hokd
    obtain rfl : j = i := Option.some.inj (hj.symm.trans (hpf.symm.trans hi))
    have h2 := two_le_countP (fun c : PingCall => decide (c.credit = some j))
      { phase := .start, ctxDone := false } hpq hc hd (by simpa using hc') (by simpa using hd')
      (by simp [PingCall.credit, PingCall.isOk])
    have := hown j
    unfold pongOwners at this
    split_ifs at this <;> omega

theorem ok_pings_credited_to_distinct_pongs_echo :
    ∃ s, newGorillaWebsocketConnectionAdapter.run pingEcho = some s ∧ okCount s = 1 ∧
      ((∀ (p : PingId) (c : PingCall), s.pings[p]? = some c → c.phase = .returned none →
        c.sentOn.isSome ∧ ∃ i < s.pongLog.length, c.pongFrom = some i) ∧
      ∀ (p q : PingId) (c d : PingCall), s.pings[p]? = some c → s.pings[q]? = some d →
        c.phase = .returned none → d.phase = .returned none → c.pongFrom = d.pongFrom → p = q) :=
  ⟨_, rfl, by decide, ok_pings_credited_to_distinct_pongs ⟨pingEcho, rfl⟩⟩

end WsAdapter
