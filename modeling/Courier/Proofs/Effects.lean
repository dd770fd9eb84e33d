import Courier.Proofs.Runs
import Courier.Script
import Courier.Wire.Transport
/-
Which effects an act may perform. An act is confined to effects with some
property if it performs no other, whatever it is answered with; acts that are
made of confined ones are confined, too (`Act.Confined.bind`).

The transports are: a script tells of the requests that reach it, and the
bundled transport exchanges, delivers and reports, and that is all.

What an effect leaves as it is in the world (`World.spares_answer`) is left so
by acts that perform no other (`World.sequence_run`).
-/
namespace Courier

namespace Act

variable {α β : Type} {P Q : Effect → Prop} {act : Act α}

/-- Every effect of the act has the property, whatever the replies. -/
def Confined (P : Effect → Prop) (act : Act α) : Prop := ∀ t a, act.Runs t a → ∀ s ∈ t, P s.effect

theorem Confined.mono (h : act.Confined P) (hPQ : ∀ e, P e → Q e) : act.Confined Q :=
  fun t a hruns s hs => hPQ s.effect (h t a hruns s hs)

theorem Confined.pure (a : α) : Confined P (pure a : Act α) := by
  intro t b h s hs
  obtain ⟨rfl, -⟩ := done_leads.mp h
  simp at hs

theorem Confined.bind {f : α → Act β} (h : act.Confined P) (hf : ∀ a, (f a).Confined P) :
    (act >>= f).Confined P := by
  intro t b hruns s hs
  obtain ⟨t₁, a, t₂, rfl, h₁, h₂⟩ := runs_bind.mp hruns
  rcases List.mem_append.mp hs with hs | hs
  · exact h t₁ a h₁ s hs
  · exact hf a t₂ b h₂ s hs

theorem Confined.effect {e : Effect} (h : P e) : (Act.effect e).Confined P := by
  intro t reply hruns s hs
  obtain rfl := effect_runs.mp hruns
  obtain rfl := List.mem_singleton.mp hs
  exact h

/-- An act that is under way keeps within its effects. -/
theorem Confined.leads (h : act.Confined P) {t : Trace} {rest : Act α} (hl : act.Leads t rest) :
    (∀ s ∈ t, P s.effect) ∧ rest.Confined P := by
  constructor
  · obtain ⟨t', ht', -⟩ := rest.exists_runs (.initial .default true .unreachable)
    exact fun s hs => h _ _ (hl.append ht') s (List.mem_append_left t' hs)
  · exact fun t' a ht' s hs => h _ _ (hl.append ht') s (List.mem_append_right t hs)

/-- The effect that an act under way performs next is one of its effects. -/
theorem Confined.next (h : act.Confined P) {t : Trace} {e : Effect} {next : e.Reply → Act α}
    (hl : act.Leads t (.perform e next)) : P e := by
  let reply := ((World.initial .default true .unreachable).answer e).1
  exact (h.leads (hl.snoc reply)).1 ⟨e, reply⟩ (by simp)

end Act

/-- Every effect of the transport has the property. -/
def Transport.Confined (P : Effect → Prop) (transport : Transport) : Prop :=
  ∀ q, (transport q).Confined P

variable {P : Effect → Prop}

theorem Script.transport_confined (hP : ∀ q, P (.note (.transported q))) (s : Script) :
    Transport.Confined P s.transport :=
  fun q => .bind (.effect (hP q)) fun _ => .pure _

namespace Wire

/-- The effects of an exchange. -/
inductive Exchanges : Effect → Prop
  | exchange (w : WireRequest) (timeout : Nat) : Exchanges (.exchange w timeout)

/-- The effects of the bundled transport. -/
inductive Performs : Effect → Prop
  | exchange (w : WireRequest) (timeout : Nat) : Performs (.exchange w timeout)
  | writeSink (sink : Sink) (bytes : Bytes) : Performs (.writeSink sink bytes)
  | transferred (listener : String) (stats : TransferStats) :
      Performs (.note (.transferred listener stats))

theorem Exchanges.performs {e : Effect} (h : Exchanges e) : Performs e := by
  cases h with
  | exchange w timeout => exact .exchange w timeout

theorem sendOnce_confined (timeout : Nat) (w : WireRequest) :
    (sendOnce timeout w).Confined Exchanges := by
  unfold sendOnce
  split
  · exact .pure _
  · exact .pure _
  · exact .pure _
  · refine .bind (.effect (.exchange w timeout)) fun reception => ?_
    cases reception <;> exact .pure _

theorem follow_confined (join : Url → String → Except UrlFlaw Url)
    {send : WireRequest → Act Outcome} (hsend : ∀ w, (send w).Confined Exchanges)
    (max left : Nat) (w : WireRequest) : (follow join send max left w).Confined Exchanges := by
  induction left generalizing w with
  | zero =>
    unfold follow
    refine .bind (hsend w) fun outcome => ?_
    cases outcome with
    | error f => exact .pure _
    | ok r =>
      dsimp only
      split <;> exact .pure _
  | succ left ih =>
    unfold follow
    refine .bind (hsend w) fun outcome => ?_
    cases outcome with
    | error f => exact .pure _
    | ok r =>
      dsimp only
      split
      · exact .pure _
      · cases Redirect.next join w r with
        | error f => exact .pure _
        | ok w' => exact ih w'

theorem exchange_confined (join : Url → String → Except UrlFlaw Url) (c : Config) (q : Request) :
    (exchange join c q).Confined Exchanges := by
  have hsend := sendOnce_confined (q.options.timeout.getD c.timeout)
  unfold exchange
  cases q.options.allowRedirects.getD (.follow c.maxRedirects) with
  | follow max => exact follow_confined join hsend max max _
  | disabled =>
    refine .bind (hsend _) fun outcome => ?_
    cases outcome <;> exact .pure _

/-- The effects of the bundled transport behind the exchange. -/
inductive Delivers : Effect → Prop
  | writeSink (sink : Sink) (bytes : Bytes) : Delivers (.writeSink sink bytes)
  | transferred (listener : String) (stats : TransferStats) :
      Delivers (.note (.transferred listener stats))

theorem Delivers.performs {e : Effect} (h : Delivers e) : Performs e := by
  cases h with
  | writeSink sink bytes => exact .writeSink sink bytes
  | transferred listener stats => exact .transferred listener stats

theorem report_confined (q : Request) (stats : TransferStats) :
    (report q stats).Confined Delivers := by
  unfold report
  split
  · exact .effect (.transferred _ _)
  · exact .pure _

theorem deliver_confined (q : Request) (a : Arrival) : (deliver q a).Confined Delivers := by
  unfold deliver
  extract_lets stats finish
  have hfinish (written : Except String Unit) : (finish written).Confined Delivers := by
    cases written with
    | error message => exact .pure _
    | ok u => exact .bind (report_confined q _) fun _ => .pure _
  split
  · exact .bind (.effect (.writeSink _ _)) hfinish
  · exact .bind (.pure _) hfinish

theorem transport_confined (c : Config) : Transport.Confined Performs (transport c) := by
  intro q
  unfold transport
  split
  · exact .pure _
  · refine .bind ((exchange_confined Url.join c q).mono fun _ => Exchanges.performs) fun arrived =>
      ?_
    cases arrived with
    | ok arrival => exact (deliver_confined q arrival).mono fun _ => Delivers.performs
    | error f =>
      exact .bind ((report_confined q _).mono fun _ => Delivers.performs) fun _ => .pure _

end Wire

/-! ## What effects leave as it is -/

namespace World

/-- `w.Spares e v`: what the effect, which leads to the world `v`, leaves as it is. -/
structure Spares (w : World) (e : Effect) (v : World) : Prop where
  truncation : v.truncation = w.truncation
  network : v.network = w.network
  queues : v.sequences.length = w.sequences.length
  sequence : ∀ number, e ≠ .takeCanned number → v.sequence number = w.sequence number
  files : (∀ path bytes, e ≠ .writeSink (.file path) bytes) → v.files = w.files
  exchanges : (∀ wire timeout, e ≠ .exchange wire timeout) → v.exchanges = w.exchanges

theorem spares_answer (w : World) (e : Effect) : w.Spares e (w.answer e).2 := by
  cases e with
  | takeCanned number =>
    refine ⟨rfl, rfl, by simp [answer, setSequence], fun number' h => ?_,
      fun _ => rfl, fun _ => rfl⟩
    have hne : number ≠ number' := fun heq => h (heq ▸ rfl)
    simp [answer, World.sequence, setSequence, hne]
  | record recorder q r? =>
    cases recorder <;> exact ⟨rfl, rfl, rfl, fun _ _ => rfl, fun _ => rfl, fun _ => rfl⟩
  | writeSink sink bytes =>
    cases sink with
    | buffer name => exact ⟨rfl, rfl, rfl, fun _ _ => rfl, fun _ => rfl, fun _ => rfl⟩
    | file path =>
      simp only [answer, write]
      split
      · exact ⟨rfl, rfl, rfl, fun _ _ => rfl, fun _ => rfl, fun _ => rfl⟩
      · exact ⟨rfl, rfl, rfl, fun _ _ => rfl, fun h => absurd rfl (h path bytes), fun _ => rfl⟩
  | sleep ms mode =>
    simp only [answer]
    split <;> exact ⟨rfl, rfl, rfl, fun _ _ => rfl, fun _ => rfl, fun _ => rfl⟩
  | exchange wire timeout =>
    exact ⟨rfl, rfl, rfl, fun _ _ => rfl, fun _ => rfl, fun h => absurd rfl (h wire timeout)⟩
  | _ => exact ⟨rfl, rfl, rfl, fun _ _ => rfl, fun _ => rfl, fun _ => rfl⟩

/-- Taking from a queue leaves what comes behind the answer that is taken. -/
theorem sequence_take (w : World) (number : Nat) :
    (w.answer (.takeCanned number)).2.sequence number = (w.sequence number).next.2 := by
  by_cases hnumber : number < w.sequences.length
  · simp [answer, sequence, setSequence, hnumber]
  · -- A queue that was never made is empty, and stays so.
    simp [answer, sequence, setSequence, hnumber, Sequence.next, Sequence.empty]

/-- An act that takes nothing from a queue leaves the queue as it is. -/
theorem sequence_run (w : World) {α : Type} {act : Act α} {number : Nat}
    (h : act.Confined (· ≠ .takeCanned number)) :
    (w.run act).2.sequence number = w.sequence number := by
  induction act generalizing w with
  | done a => rfl
  | perform e next ih =>
    have hrest : (next (w.answer e).1).Confined _ := (h.leads (.perform .start)).2
    calc ((w.answer e).2.run (next (w.answer e).1)).2.sequence number
        = (w.answer e).2.sequence number := ih _ _ hrest
      _ = w.sequence number := (w.spares_answer e).sequence number (h.next .start)

end World

end Courier
