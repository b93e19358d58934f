import AccountSessions.Proofs.Execution

/-!
# Two runs of an operation

Two operations run from two states.  They agree if both succeed, with values and states
that a condition relates, or both fail for the same reason and leave states of the given
relation behind.  What agrees step by step agrees as a whole.
-/

namespace AccountSessions

/-- The operations agree about how they end; after a failure the states are in the
relation. -/
inductive Agree {ε α β : Type} (rel : State → State → Prop) (first : ExceptT ε (StateM State) α)
    (second : ExceptT ε (StateM State) β) (state twin : State)
    (post : α → β → State → State → Prop) : Prop where
  | ok {value : α} {other : β} {later last : State} (hfirst : exec first state = (.ok value, later))
      (hsecond : exec second twin = (.ok other, last)) (hpost : post value other later last)
  | error {fault : ε} {later last : State} (hfirst : exec first state = (.error fault, later))
      (hsecond : exec second twin = (.error fault, last)) (hfailed : rel later last)

/-- The operation ends alike from both states, with one outcome and in states of the
relation. -/
abbrev InStep {ε α : Type} (rel : State → State → Prop) (action : ExceptT ε (StateM State) α)
    (state twin : State) : Prop :=
  Agree rel action action state twin fun value other later last => value = other ∧ rel later last

namespace Agree

variable {ε α β γ δ : Type} {rel : State → State → Prop} {state twin : State}

theorem mono
    {first : ExceptT ε (StateM State) α} {second : ExceptT ε (StateM State) β}
    {before post : α → β → State → State → Prop} (hagree : Agree rel first second state twin before)
    (himplies : ∀ value other later last, before value other later last →
      post value other later last) :
    Agree rel first second state twin post := by
  cases hagree with
  | ok hfirst hsecond hbefore => exact .ok hfirst hsecond (himplies _ _ _ _ hbefore)
  | error hfirst hsecond hfailed => exact .error hfirst hsecond hfailed

theorem congr
    {first action : ExceptT ε (StateM State) α} {second other : ExceptT ε (StateM State) β}
    {begin start : State} {post : α → β → State → State → Prop}
    (hagree : Agree rel first second state twin post)
    (hfirst : exec action begin = exec first state)
    (hsecond : exec other start = exec second twin) :
    Agree rel action other begin start post := by
  cases hagree with
  | ok hvalue hother hpost => exact .ok (hfirst.trans hvalue) (hsecond.trans hother) hpost
  | error hfault hother hfailed => exact .error (hfirst.trans hfault) (hsecond.trans hother) hfailed

theorem pure
    {value : α} {other : β} {post : α → β → State → State → Prop}
    (hpost : post value other state twin) :
    Agree rel (Pure.pure value : ExceptT ε (StateM State) α) (Pure.pure other) state twin post :=
  .ok rfl rfl hpost

theorem throw (fault : ε) {post : α → β → State → State → Prop} (hrel : rel state twin) :
    Agree rel (MonadExcept.throw fault : ExceptT ε (StateM State) α) (MonadExcept.throw fault)
      state twin post :=
  .error rfl rfl hrel

theorem bind
    {first : ExceptT ε (StateM State) α} {second : ExceptT ε (StateM State) β}
    {next : α → ExceptT ε (StateM State) γ} {after : β → ExceptT ε (StateM State) δ}
    {middle : α → β → State → State → Prop} {post : γ → δ → State → State → Prop}
    (hfirst : Agree rel first second state twin middle)
    (hnext : ∀ value other later last, middle value other later last →
      Agree rel (next value) (after other) later last post) :
    Agree rel (first >>= next) (second >>= after) state twin post := by
  cases hfirst with
  | error hfirst hsecond hfailed =>
      exact .error (by rw [exec_bind, hfirst]) (by rw [exec_bind, hsecond]) hfailed
  | ok hfirst hsecond hmiddle =>
      cases hnext _ _ _ _ hmiddle with
      | ok hlater hlast hpost =>
          exact .ok (by rw [exec_bind, hfirst]; exact hlater)
            (by rw [exec_bind, hsecond]; exact hlast) hpost
      | error hlater hlast hfailed =>
          exact .error (by rw [exec_bind, hfirst]; exact hlater)
            (by rw [exec_bind, hsecond]; exact hlast) hfailed

/-- A step whose values do not matter. -/
theorem after
    {first : ExceptT ε (StateM State) α} {second : ExceptT ε (StateM State) β}
    {next : α → ExceptT ε (StateM State) γ} {later : β → ExceptT ε (StateM State) δ}
    {post : γ → δ → State → State → Prop}
    (hfirst : Agree rel first second state twin fun _ _ => rel)
    (hnext : ∀ value other middle last, rel middle last →
      Agree rel (next value) (later other) middle last post) :
    Agree rel (first >>= next) (second >>= later) state twin post :=
  hfirst.bind hnext

theorem bind_error
    {first : ExceptT ε (StateM State) α} {second : ExceptT ε (StateM State) β}
    {next : α → ExceptT ε (StateM State) γ} {after : β → ExceptT ε (StateM State) δ}
    {post : γ → δ → State → State → Prop}
    (hfirst : Agree rel first second state twin fun _ _ _ _ => False) :
    Agree rel (first >>= next) (second >>= after) state twin post :=
  hfirst.bind fun _ _ _ _ hnever => hnever.elim

theorem get_bind
    {next : State → ExceptT ε (StateM State) α} {after : State → ExceptT ε (StateM State) β}
    {post : α → β → State → State → Prop}
    (hnext : Agree rel (next state) (after twin) state twin post) :
    Agree rel (get >>= next) (get >>= after) state twin post :=
  hnext.congr (by rw [exec_bind, exec_get]) (by rw [exec_bind, exec_get])

theorem set_bind
    {next : PUnit → ExceptT ε (StateM State) α} {after : PUnit → ExceptT ε (StateM State) β}
    {post : α → β → State → State → Prop} {later last : State}
    (hnext : Agree rel (next ()) (after ()) later last post) :
    Agree rel (set later >>= next) (set last >>= after) state twin post :=
  hnext.congr (by rw [exec_bind, exec_set]) (by rw [exec_bind, exec_set])

theorem tryCatch
    {first second : ExceptT ε (StateM State) α} {handler other : ε → ExceptT ε (StateM State) α}
    {post : α → α → State → State → Prop} (hfirst : Agree rel first second state twin post)
    (hhandler : ∀ fault later last, rel later last →
      Agree rel (handler fault) (other fault) later last post) :
    Agree rel (MonadExcept.tryCatch first handler) (MonadExcept.tryCatch second other) state twin
      post := by
  cases hfirst with
  | ok hfirst hsecond hpost =>
      exact .ok (by rw [exec_tryCatch, hfirst]) (by rw [exec_tryCatch, hsecond]) hpost
  | error hfirst hsecond hfailed =>
      cases hhandler _ _ _ hfailed with
      | ok hlater hlast hpost =>
          exact .ok (by rw [exec_tryCatch, hfirst]; exact hlater)
            (by rw [exec_tryCatch, hsecond]; exact hlast) hpost
      | error hlater hlast hfailed =>
          exact .error (by rw [exec_tryCatch, hfirst]; exact hlater)
            (by rw [exec_tryCatch, hsecond]; exact hlast) hfailed

end Agree

namespace InStep

variable {ε α β : Type} {rel : State → State → Prop} {state twin : State}

theorem of_exec
    {action : ExceptT ε (StateM State) α} {outcome : Except ε α} {later last : State}
    (hfirst : exec action state = (outcome, later)) (hsecond : exec action twin = (outcome, last))
    (hrel : rel later last) :
    InStep rel action state twin := by
  cases outcome with
  | ok value => exact .ok hfirst hsecond ⟨rfl, hrel⟩
  | error fault => exact .error hfirst hsecond hrel

theorem bind
    {first : ExceptT ε (StateM State) α} {next : α → ExceptT ε (StateM State) β}
    {post : β → β → State → State → Prop} (hfirst : InStep rel first state twin)
    (hnext : ∀ value later last, rel later last →
      Agree rel (next value) (next value) later last post) :
    Agree rel (first >>= next) (first >>= next) state twin post := by
  refine Agree.bind hfirst ?_
  rintro value _ later last ⟨rfl, hrel⟩
  exact hnext value later last hrel

theorem map
    {action : ExceptT ε (StateM State) α} (change : α → β)
    (haction : InStep rel action state twin) :
    InStep rel (change <$> action) state twin := by
  rw [map_eq_pure_bind]
  exact haction.bind fun value later last hrel => .pure ⟨rfl, hrel⟩

theorem outcome_eq {action : ExceptT ε (StateM State) α} (haction : InStep rel action state twin) :
    (exec action twin).1 = (exec action state).1 ∧
      rel (exec action state).2 (exec action twin).2 := by
  cases haction with
  | ok hfirst hsecond hpost => rw [hfirst, hsecond, hpost.1]; exact ⟨rfl, hpost.2⟩
  | error hfirst hsecond hfailed => rw [hfirst, hsecond]; exact ⟨rfl, hfailed⟩

end InStep

/-- Whatever becomes of the operations, they leave states of the relation behind. -/
def Abreast {ε ε' α β : Type} (rel : State → State → Prop) (first : ExceptT ε (StateM State) α)
    (second : ExceptT ε' (StateM State) β) (state twin : State) : Prop :=
  rel (exec first state).2 (exec second twin).2

namespace Abreast

variable {ε α β γ δ : Type} {rel : State → State → Prop} {state twin : State}

theorem of_agree
    {first : ExceptT ε (StateM State) α} {second : ExceptT ε (StateM State) β}
    {post : α → β → State → State → Prop} (hagree : Agree rel first second state twin post)
    (hpost : ∀ value other later last, post value other later last → rel later last) :
    Abreast rel first second state twin := by
  unfold Abreast
  cases hagree with
  | ok hfirst hsecond hrelated => rw [hfirst, hsecond]; exact hpost _ _ _ _ hrelated
  | error hfirst hsecond hfailed => rw [hfirst, hsecond]; exact hfailed

theorem of_related
    {first : ExceptT ε (StateM State) α} {second : ExceptT ε (StateM State) β}
    (hagree : Agree rel first second state twin fun _ _ => rel) :
    Abreast rel first second state twin :=
  .of_agree hagree fun _ _ _ _ hrel => hrel

theorem bind
    {first : ExceptT ε (StateM State) α} {second : ExceptT ε (StateM State) β}
    {next : α → ExceptT ε (StateM State) γ} {after : β → ExceptT ε (StateM State) δ}
    {middle : α → β → State → State → Prop} (hfirst : Agree rel first second state twin middle)
    (hnext : ∀ value other later last, middle value other later last →
      Abreast rel (next value) (after other) later last) :
    Abreast rel (first >>= next) (second >>= after) state twin := by
  unfold Abreast
  rw [exec_bind, exec_bind]
  cases hfirst with
  | ok hfirst hsecond hmiddle => rw [hfirst, hsecond]; exact hnext _ _ _ _ hmiddle
  | error hfirst hsecond hfailed => rw [hfirst, hsecond]; exact hfailed

theorem map
    {first : ExceptT ε (StateM State) α} {second : ExceptT ε (StateM State) β} (change : α → γ)
    (other : β → δ) (habreast : Abreast rel first second state twin) :
    Abreast rel (change <$> first) (other <$> second) state twin := by
  unfold Abreast at habreast ⊢
  rw [exec_map, exec_map]
  exact habreast

theorem map_related
    {first second : ExceptT ε (StateM State) α} (change : α → γ)
    (hagree : Agree rel first second state twin fun _ _ => rel) :
    Abreast rel (change <$> first) (change <$> second) state twin :=
  .map _ _ (.of_related hagree)

theorem map_inStep
    {action : ExceptT ε (StateM State) α} (change : α → γ) (hstep : InStep rel action state twin) :
    Abreast rel (change <$> action) (change <$> action) state twin :=
  .of_agree (hstep.map change) fun _ _ _ _ h => h.2

end Abreast

end AccountSessions
