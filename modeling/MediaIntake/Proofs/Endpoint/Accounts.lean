import Mathlib.Algebra.Group.Nat.Defs
import MediaIntake.Proofs.Endpoint.Runs
/-! # What the counters count

The counters are kept in three places of a delivery: one is raised before anything else happens,
the others where the sample is dropped or where the consumer has reacted, and none of these
where a question to the sample panics.  Held against the history of a run every counter is a
count of exchanges (`Accounts`), from one call to the next (`Accounts.concat`).  So deliveries
are **conserved**: each was accepted by the consumer, failed by it, dropped, or interrupted.  What
the consumer was called for is done in the end, unless a panic of it escapes: such a call is
counted as a failure, and its caller is told of nothing (`escaped_panic_counted`).  In words of 64
bits all of this is so as long as the deliveries can be counted in them (`wordCounters_of_lt`).
-/
namespace MediaIntake
variable {k : Kind}

/-! ## One exchange -/

namespace Counters

/-- Two counts taken together. -/
def add (c entry : Counters) : Counters where
  delivered := c.delivered + entry.delivered
  dispatched := c.dispatched + entry.dispatched
  consumerFailures := c.consumerFailures + entry.consumerFailures
  rejected := c.rejected + entry.rejected

/-- The largest counters that 64 bits hold. -/
def largest : Counters := ⟨2 ^ 64 - 1, 2 ^ 64 - 1, 2 ^ 64 - 1, 2 ^ 64 - 1⟩

/-- No counter is larger here than there. -/
structure Le (c later : Counters) : Prop where
  delivered : c.delivered ≤ later.delivered
  dispatched : c.dispatched ≤ later.dispatched
  consumerFailures : c.consumerFailures ≤ later.consumerFailures
  rejected : c.rejected ≤ later.rejected

theorem Le.refl (c : Counters) : c.Le c :=
  ⟨Nat.le_refl _, Nat.le_refl _, Nat.le_refl _, Nat.le_refl _⟩

theorem Le.trans {a b c : Counters} (hab : a.Le b) (hbc : b.Le c) : a.Le c where
  delivered := Nat.le_trans hab.delivered hbc.delivered
  dispatched := Nat.le_trans hab.dispatched hbc.dispatched
  consumerFailures := Nat.le_trans hab.consumerFailures hbc.consumerFailures
  rejected := Nat.le_trans hab.rejected hbc.rejected

theorem le_add (c entry : Counters) : c.Le (c.add entry) :=
  ⟨Nat.le_add_right _ _, Nat.le_add_right _ _, Nat.le_add_right _ _, Nat.le_add_right _ _⟩

/-- What 64-bit words keep of counters. -/
def wrapped (c : Counters) : Counters where
  delivered := c.delivered % 2 ^ 64
  dispatched := c.dispatched % 2 ^ 64
  consumerFailures := c.consumerFailures % 2 ^ 64
  rejected := c.rejected % 2 ^ 64

/-- Words lose nothing by being kept at every addition instead of once in the end. -/
theorem wrapped_add_wrapped (c entry : Counters) :
    (c.wrapped.add entry).wrapped = (c.add entry).wrapped := by
  dsimp only [wrapped, add]
  rw [Nat.mod_add_mod, Nat.mod_add_mod, Nat.mod_add_mod, Nat.mod_add_mod]

theorem wrapped_of_le_largest {c : Counters} (h : c.Le .largest) : c.wrapped = c := by
  obtain ⟨hdelivered, hdispatched, hfailures, hrejected⟩ := h
  dsimp only [largest] at hdelivered hdispatched hfailures hrejected
  unfold wrapped
  rw [Nat.mod_eq_of_lt (by omega), Nat.mod_eq_of_lt (by omega), Nat.mod_eq_of_lt (by omega),
    Nat.mod_eq_of_lt (by omega)]

end Counters

/-- What an exchange is counted as. -/
def Exchange.entry (x : Exchange k) : Counters where
  delivered := x.isDelivery.toNat
  dispatched := (x.invoked && !x.consumerFailed).toNat
  consumerFailures := x.consumerFailed.toNat
  rejected := x.dropped.toNat

namespace Endpoint

/-- **A call adds its entry to the counters.** -/
theorem step_counters_eq_add (e : Endpoint k) (call : Call k) :
    (e.step call).2.counters = e.counters.add (e.exchange call).entry := by
  rw [step_counters]
  cases hc : call.delivery? with
  | none =>
    obtain ⟨hd, -, hr, -, hi, hf⟩ := e.exchange_of_no_delivery hc
    rw [Exchange.entry, hd, hi, hf, hr]
    rfl
  | some d =>
    obtain rfl := Call.eq_deliver_of_delivery? hc
    obtain ⟨hd, -, hr, -, hi, hf⟩ := e.exchange_deliver d
    rw [Exchange.entry, hd, hi, hf, hr]
    dsimp only
    cases (e.slot.package e.actual d).verdict with
    | packaged => cases d.reaction <;> rfl
    | failed error => rfl
    | unwound => rfl

/-- Counters only grow, along a run. -/
theorem counters_le_run (e : Endpoint k) (calls : List (Call k)) :
    e.counters.Le (e.run calls).2.counters := by
  induction calls generalizing e with
  | nil => exact .refl _
  | cons call calls ih =>
    have hstep : e.counters.Le (e.step call).2.counters := by
      rw [step_counters_eq_add]
      exact Counters.le_add _ _
    rw [run_cons]
    exact hstep.trans (ih _)

end Endpoint

/-! ## Histories -/

/-- Counters that say of a history what they are meant to say. -/
structure Accounts (log : List (Exchange k)) (c : Counters) : Prop where
  delivered : c.delivered = log.countP (·.isDelivery)
  invoked : c.dispatched + c.consumerFailures = log.countP (·.invoked)
  /-- The consumer was called once for each delivery that its caller was told is done, and for each
  that it unwound itself. -/
  succeeded : c.dispatched + c.consumerFailures =
    log.countP (·.succeeded) + log.countP (·.escaped)
  consumerFailures : c.consumerFailures = log.countP (·.consumerFailed)
  rejected : c.rejected = log.countP (·.dropped)
  /-- Nothing that was delivered gets lost. -/
  conserved : c.delivered =
    c.dispatched + c.consumerFailures + c.rejected + log.countP (·.interrupted)

theorem countP_concat {α : Type} (p : α → Bool) (log : List α) (x : α) :
    (log ++ [x]).countP p = log.countP p + (p x).toNat := by
  cases h : p x <;> simp [h]

namespace Accounts
variable {log : List (Exchange k)} {c : Counters}

theorem nil : Accounts ([] : List (Exchange k)) {} := ⟨rfl, rfl, rfl, rfl, rfl, rfl⟩

/-- **The accounts stay right from one exchange to the next.** -/
theorem concat (h : Accounts log c) {x : Exchange k} (hx : x.Balanced) :
    Accounts (log ++ [x]) (c.add x.entry) := by
  -- the entry splits what the consumer was called for into accepted and failed
  have hsplit : x.entry.dispatched + x.entry.consumerFailures = x.invoked.toNat := by
    have hf := hx.failed_of_invoked
    unfold Exchange.entry
    cases hc : x.consumerFailed with
    | false => simp
    | true => simp [hf hc]
  have hdelivery := hx.delivery
  have hcalled := hx.toNat_invoked
  have hinvoked := h.invoked
  have hsucceeded := h.succeeded
  have hconserved := h.conserved
  constructor
  · rw [countP_concat, ← h.delivered]
    rfl
  · rw [countP_concat]
    dsimp only [Counters.add]
    omega
  · rw [countP_concat, countP_concat]
    dsimp only [Counters.add]
    omega
  · rw [countP_concat, ← h.consumerFailures]
    rfl
  · rw [countP_concat, ← h.rejected]
    rfl
  · rw [countP_concat]
    dsimp only [Counters.add, Exchange.entry] at hsplit ⊢
    omega

end Accounts

namespace Endpoint

theorem accounts_history (calls : List (Call k)) :
    Accounts (history k calls) (after k calls).counters := by
  induction calls using List.reverseRecOn with
  | nil => exact .nil
  | append_singleton calls call ih =>
    rw [history_concat, after_concat, step_counters_eq_add]
    exact ih.concat (exchange_balanced _ call)

/-- A call is interrupted exactly where it delivers a sample and a question to the sample
panics. -/
theorem exchange_interrupted_iff (e : Endpoint k) (call : Call k) :
    (e.exchange call).interrupted = true ↔
      ∃ d, call = .deliver d ∧
        ∃ q ∈ (e.exchange call).outcome.queries, d.sample.panicsAt q = true := by
  cases hc : call.delivery? with
  | none =>
    obtain ⟨-, -, -, hu, -⟩ := e.exchange_of_no_delivery hc
    rw [Exchange.interrupted, hu, Bool.false_and]
    constructor
    · intro h
      cases h
    · rintro ⟨d, rfl, -⟩
      cases hc
  | some d =>
    obtain rfl := Call.eq_deliver_of_delivery? hc
    obtain ⟨-, hn⟩ := e.exchange_deliver_unwinds d
    rw [hn, queries_deliver, decide_eq_true_iff, (e.slot.package_course e.actual d).unwound_iff]
    constructor
    · intro h
      exact ⟨d, rfl, h⟩
    · rintro ⟨d', hd, h⟩
      cases hd
      exact h

/-- Whatever is counted of the calls of a run can be counted in its history. -/
theorem countP_call_history (p : Call k → Bool) (calls : List (Call k)) :
    (history k calls).countP (fun x => p x.call) = calls.countP p := by
  conv_rhs => rw [← map_call_exchanges (init k) calls, List.countP_map]
  rfl

theorem countP_isDelivery_history (calls : List (Call k)) :
    (history k calls).countP (·.isDelivery) = calls.countP (·.delivery?.isSome) :=
  countP_call_history (·.delivery?.isSome) calls

/-- Where deliveries fit in 64 bits, so do all counters. -/
theorem counters_le_largest {calls : List (Call k)}
    (h : calls.countP (·.delivery?.isSome) < 2 ^ 64) :
    (after k calls).counters.Le .largest := by
  have ha := accounts_history calls
  -- no counter is larger than that of the deliveries, since these are conserved
  have hdelivered := ha.delivered
  have hconserved := ha.conserved
  rw [countP_isDelivery_history] at hdelivered
  constructor <;> dsimp only [Counters.largest] <;> omega

/-- Counters in 64-bit words, raised from exchange to exchange. -/
def wordCounters (log : List (Exchange k)) : Counters :=
  log.foldl (fun c x => (c.add x.entry).wrapped) {}

/-- However long a run is, words keep what they can of its counters. -/
theorem wordCounters_history (calls : List (Call k)) :
    wordCounters (history k calls) = (after k calls).counters.wrapped := by
  induction calls using List.reverseRecOn with
  | nil => rfl
  | append_singleton calls call ih =>
    rw [history_concat, after_concat, step_counters_eq_add, ← Counters.wrapped_add_wrapped, ← ih,
      wordCounters, List.foldl_append]
    rfl

/-- **Counters in 64-bit words are exact where fewer than `2 ^ 64` samples were delivered.** -/
theorem wordCounters_of_lt {calls : List (Call k)}
    (h : calls.countP (·.delivery?.isSome) < 2 ^ 64) :
    wordCounters (history k calls) = (after k calls).counters := by
  rw [wordCounters_history, Counters.wrapped_of_le_largest (counters_le_largest h)]

/-- **The counters after a run are counts of its exchanges**, as long as its deliveries can be
counted in 64 bits.  A delivery is interrupted only where a question to its sample panics, and
escapes only where the consumer is called and a panic of it does.  Where none does, the consumer is
called once for each delivery that is done, and only questions unwind.  From an earlier state of the
run to a later one no counter falls; and calls that deliver nothing leave the counters alone. -/
theorem accounts_after (k : Kind) (calls : List (Call k))
    (h : calls.countP (·.delivery?.isSome) < 2 ^ 64) :
    let c := (after k calls).counters
    let log := history k calls
    Accounts log c ∧ c.Le .largest ∧
    (∀ x ∈ log,
      (x.interrupted = true ↔
        ∃ d, x.call = .deliver d ∧ ∃ q ∈ x.outcome.queries, d.sample.panicsAt q = true) ∧
      x.escaped = (x.invoked && x.call.escapes)) ∧
    (Call.Caught calls →
      c.dispatched + c.consumerFailures = log.countP (·.succeeded) ∧
      c.delivered = c.dispatched + c.consumerFailures + c.rejected + log.countP (·.unwound)) ∧
    (∀ earlier, earlier <+: calls →
      (after k earlier).counters.Le (after k calls).counters) ∧
    ∀ call : Call k, call.delivery? = none →
      (after k (calls ++ [call])).counters = (after k calls).counters := by
  have haccounts := accounts_history calls
  refine ⟨haccounts, counters_le_largest h, ?_, ?_, ?_, ?_⟩
  · exact forall_history (fun e call =>
      ⟨e.exchange_interrupted_iff call, (e.exchange_balanced call).escaped⟩) calls
  · intro hcaught
    have hunwound : (history k calls).countP (·.interrupted) =
        (history k calls).countP (·.unwound) :=
      List.countP_congr fun x hx => by rw [interrupted_of_caught hcaught x hx]
    have hinvoked : (history k calls).countP (·.invoked) =
        (history k calls).countP (·.succeeded) :=
      List.countP_congr fun x hx => by rw [invoked_of_caught hcaught x hx]
    rw [← hinvoked, ← hunwound]
    exact ⟨haccounts.invoked, haccounts.conserved⟩
  · rintro earlier ⟨later, rfl⟩
    rw [after_append]
    exact counters_le_run _ _
  · intro call hc
    rw [after_concat, step_counters, hc]

/-- A panic that escapes is counted as a failure of the consumer, though its caller is not told that
the delivery is done: what the counters say of the consumer is no longer the number of deliveries
that are. -/
theorem escaped_panic_counted :
    let frame : Sample := ⟨.answers ⟨#[1, 2, 3]⟩, .answers { start := ⟨20000⟩ }⟩
    let calls : List (Call .video) :=
      [.propose (VideoDescriptor.advertised ⟨2, 2⟩),
       .deliver { state := .running, sample := frame, reaction := .panics (.other true) }]
    let c := (after .video calls).counters
    c = ⟨1, 0, 1, 0⟩ ∧
    c.dispatched + c.consumerFailures ≠ (history .video calls).countP (·.succeeded) := by
  decide

/-- A frame is delivered before anything is negotiated; then one is accepted by the consumer,
one fails with status zero, and one panics when it is asked for its payload. -/
theorem accounts_of_mixed_run :
    let frame : Sample := ⟨.answers ⟨#[1, 2, 3]⟩, .answers { start := ⟨20000⟩ }⟩
    let calls : List (Call .video) :=
      [.deliver { state := .running, sample := frame },
       .propose (VideoDescriptor.advertised ⟨640, 480⟩),
       .deliver { state := .running, sample := frame },
       .deliver { state := .running, sample := frame, reaction := .fails ⟨0⟩ },
       .deliver { state := .running, sample := { frame with payload := .panics } }]
    calls.countP (·.delivery?.isSome) < 2 ^ 64 ∧ Call.Caught calls ∧
      (after .video calls).counters = ⟨4, 1, 1, 1⟩ ∧
      Accounts (history .video calls) ⟨4, 1, 1, 1⟩ ∧
      (history .video calls).countP (·.succeeded) = 2 := by
  intro frame calls
  have hcount : calls.countP (·.delivery?.isSome) < 2 ^ 64 := by decide
  have hcaught : Call.Caught calls := by decide
  have hcounters : (after .video calls).counters = ⟨4, 1, 1, 1⟩ := by decide
  obtain ⟨haccounts, -, -, hdone, -⟩ := accounts_after .video calls hcount
  obtain ⟨hsucceeded, -⟩ := hdone hcaught
  rw [hcounters] at haccounts hsucceeded
  exact ⟨hcount, hcaught, hcounters, haccounts, hsucceeded.symm⟩

end Endpoint
end MediaIntake
