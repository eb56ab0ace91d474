import ApiGateway.Library.RelyGuarantee

/-!
# Systems with members

The programs of a system are started at the members of a larger one. A member has
a view of the larger state, acts on the view, and the larger state adopts what the
member has made of it.

What a program asks for, and how it ends, is the same at every member. If the views
of all members keep the invariant of a contract whenever one of them does after an
action, the contract holds at every member of the larger system.
-/

namespace ApiGateway.Interleaving

variable {A : Type} {answer : A → Type} {ε α σ τ Change Surroundings Actor Member : Type}

/-- The program at a member, whose actions are all the member's. -/
def Program.atMember (member : Member) :
    Program A answer ε α → Program (Member × A) (fun action => answer action.2) ε α
  | .done ending => .done ending
  | .ask action next => .ask (member, action) (fun received => (next received).atMember member)

/-- The larger system: each member acts on its view, and the surroundings change the
larger state. -/
def System.atMembers (system : System A answer ε α σ Change Actor) (view : Member → τ → σ)
    (adopt : Member → σ → τ → τ) (alter : Surroundings → τ → τ) :
    System (Member × A) (fun action => answer action.2) ε α τ Surroundings (Member × Actor) where
  execute := fun action state =>
    let acted := system.execute action.2 (view action.1 state)
    (acted.1, adopt action.1 acted.2 state)
  alter := alter
  launch := fun actor state => (system.launch actor.2 (view actor.1 state)).atMember actor.1

namespace Program

variable {answers : (action : A) → answer action → Prop}
  {answersThere : (action : Member × A) → answer action.2 → Prop} {member : Member}

/-- A program at a member ends as the program does. -/
theorem ends_atMember {post : Except ε α → Prop}
    (fewer : ∀ action received, answersThere (member, action) received → answers action received)
    {program : Program A answer ε α} (ends : program.Ends answers post) :
    (program.atMember member).Ends answersThere post := by
  induction program with
  | done ending => exact ends
  | ask action next ih =>
    exact fun received answered => ih received (ends received (fewer action received answered))

/-- A program at a member asks for what the program does. -/
theorem asks_atMember {permitted : A → Prop} {permittedThere : Member × A → Prop}
    (fewer : ∀ action received, answersThere (member, action) received → answers action received)
    (implies : ∀ action, permitted action → permittedThere (member, action))
    {program : Program A answer ε α} (asks : program.Asks answers permitted) :
    (program.atMember member).Asks answersThere permittedThere := by
  induction program with
  | done ending => trivial
  | ask action next ih =>
    exact ⟨implies action asks.1,
      fun received answered => ih received (asks.2 received (fewer action received answered))⟩

end Program

variable {system : System A answer ε α σ Change Actor} {assumed : σ → Prop} {lasting : σ → σ → Prop}
  {invariant : σ → Prop} {answers : σ → (action : A) → answer action → Prop}
  {permitted : σ → A → Prop} {view : Member → τ → σ} {adopt : Member → σ → τ → τ}
  {alter : Surroundings → τ → τ}

/-- A contract of the system holds at every member, if adopting what a member has done
and changing the surroundings keep the invariant of all views. -/
theorem Contract.atMembers (contract : Contract system assumed lasting invariant answers permitted)
    (adopted : ∀ member other action state, (∀ each, invariant (view each state)) →
      invariant (system.execute action (view member state)).2 →
        invariant (view other (adopt member (system.execute action (view member state)).2 state)))
    (altered : ∀ change state, (∀ each, invariant (view each state)) →
      ∀ each, invariant (view each (alter change state))) :
    Contract (system.atMembers view adopt alter) (fun state => ∀ each, assumed (view each state))
      (fun origin state => ∀ each, lasting (view each origin) (view each state))
      (fun state => ∀ each, invariant (view each state))
      (fun origin action => answers (view action.1 origin) action.2)
      (fun origin action => permitted (view action.1 origin) action.2) where
  launched := fun actor origin => Program.asks_atMember (fun _ _ answered => answered)
    (fun _ allowed => allowed) (contract.launched actor.2 (view actor.1 origin))
  answered := fun _ action _ holds lasts kept =>
    contract.answered _ action.2 _ (holds action.1) (lasts action.1) (kept action.1)
  performed := fun _ action state lasts kept allowed other =>
    adopted action.1 other action.2 state kept
      (contract.performed _ action.2 _ (lasts action.1) (kept action.1) allowed)
  altered := altered

end ApiGateway.Interleaving
