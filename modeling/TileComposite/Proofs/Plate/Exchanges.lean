import TileComposite.Proofs.Plate.Sessions

/-! Conversations of a program and a plate: calls with the replies that they got. Every run
has one. Which conversations a program can have, whatever the plate, is read off its tree. -/
namespace TileComposite

/-- A call, and what the plate replied. -/
structure Exchange where
  call : Call
  reply : Except Failure call.Reply

def Exchange.accepted (x : Exchange) : Bool := x.reply.isOk

namespace Program
variable {α β σ : Type} {m : Program α} {f : α → Program β} {xs : List Exchange}

/-- The calls of a run with their replies, in order. -/
def exchanges (plate : Plate σ) : Program α → σ → List Exchange
  | done _, _ => []
  | fail _, _ => []
  | call c next, s =>
    let (reply, t) := plate.respond c s
    ⟨c, reply⟩ :: (next reply).exchanges plate t
  | report _ next, s => next.exchanges plate s

/-- The calls that a session records are those of the conversation. -/
theorem calls_run (plate : Plate σ) (m : Program α) (s : Session σ) :
    (m.run plate s).2.calls = s.calls ++ (m.exchanges plate s.state).map Exchange.call := by
  induction m generalizing s with
  | done | fail => exact (List.append_nil _).symm
  | call c next ih =>
    rw [run, exchanges, ih]
    simp [Session.calls]
  | report p next ih =>
    rw [run, exchanges, ih]
    simp [Session.calls]

theorem exchanges_bind (plate : Plate σ) (m : Program α) (f : α → Program β) (s : Session σ) :
    (m.bind f).exchanges plate s.state = m.exchanges plate s.state ++
      match m.run plate s with
      | (.ok a, t) => (f a).exchanges plate t.state
      | (.error _, _) => [] := by
  induction m generalizing s with
  | done | fail => rfl
  | call c next ih =>
    exact congrArg (_ :: ·) (ih _ ⟨(plate.respond c s.state).2, s.events.push (.called c)⟩)
  | report p next ih => exact ih ⟨s.state, s.events.push (.reported p)⟩

theorem exchanges_silent (plate : Plate σ) (m : Program α) (s : σ) :
    m.silent.exchanges plate s = m.exchanges plate s := by
  induction m generalizing s with
  | done | fail => rfl
  | call c next ih => exact congrArg (_ :: ·) (ih _ _)
  | report p next ih => exact ih s

/-- Some plate may give the program these replies, and then it has this result. -/
inductive Converses : Program α → List Exchange → Except Failure α → Prop where
  | done (a : α) : Converses (.done a) [] (.ok a)
  | fail (e : Failure) : Converses (.fail e) [] (.error e)
  | call {c : Call} {next : Except Failure c.Reply → Program α} {reply : Except Failure c.Reply}
      {xs : List Exchange} {r : Except Failure α} :
      Converses (next reply) xs r → Converses (.call c next) (⟨c, reply⟩ :: xs) r
  | report {p : Progress} {next : Program α} {xs : List Exchange} {r : Except Failure α} :
      Converses next xs r → Converses (.report p next) xs r

theorem converses_run (plate : Plate σ) (m : Program α) (s : Session σ) :
    Converses m (m.exchanges plate s.state) (m.run plate s).1 := by
  induction m generalizing s with
  | done a => exact .done a
  | fail e => exact .fail e
  | call c next ih =>
    exact .call (ih _ ⟨(plate.respond c s.state).2, s.events.push (.called c)⟩)
  | report p next ih => exact .report (ih ⟨s.state, s.events.push (.reported p)⟩)

namespace Converses

/-- A conversation of a sequence ends in its first part, or goes on with the second. -/
theorem of_bind {r : Except Failure β} (talk : Converses (m.bind f) xs r) :
    (∃ e, r = .error e ∧ Converses m xs (.error e)) ∨
      ∃ ys a zs, xs = ys ++ zs ∧ Converses m ys (.ok a) ∧ Converses (f a) zs r := by
  induction m generalizing xs with
  | done a => exact .inr ⟨[], a, xs, rfl, .done a, talk⟩
  | fail e =>
    cases talk
    exact .inl ⟨e, rfl, .fail e⟩
  | call c next ih =>
    cases talk with
    | call rest =>
      obtain ⟨e, failed, rest⟩ | ⟨ys, a, zs, rfl, first, second⟩ := ih _ rest
      · exact .inl ⟨e, failed, .call rest⟩
      · exact .inr ⟨_ :: ys, a, zs, rfl, .call first, second⟩
  | report p next ih =>
    cases talk with
    | report rest =>
      obtain ⟨e, failed, rest⟩ | ⟨ys, a, zs, rfl, first, second⟩ := ih rest
      · exact .inl ⟨e, failed, .report rest⟩
      · exact .inr ⟨ys, a, zs, rfl, .report first, second⟩

theorem of_ofExcept {e r : Except Failure α} (talk : Converses (ofExcept e) xs r) :
    xs = [] ∧ r = e := by
  cases e <;> cases talk <;> exact ⟨rfl, rfl⟩

theorem of_require {c : Call} {r : Except Failure c.Reply} (talk : Converses (require c) xs r) :
    xs = [⟨c, r⟩] := by
  cases talk with
  | call rest =>
    obtain ⟨rfl, rfl⟩ := of_ofExcept rest
    rfl

/-- Reports are no part of a conversation. -/
theorem silent_iff {r : Except Failure α} : Converses m.silent xs r ↔ Converses m xs r := by
  induction m generalizing xs with
  | done | fail => rfl
  | call c next ih =>
    constructor
    · rintro (_ | _ | rest)
      exact .call ((ih _).mp rest)
    · rintro (_ | _ | rest)
      exact .call ((ih _).mpr rest)
  | report p next ih =>
    refine ih.trans ⟨.report, ?_⟩
    rintro (_ | _ | _ | rest)
    exact rest

end Converses
end Program
end TileComposite
