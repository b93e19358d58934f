import AccountSessions.Service.State

/-!
# Running operations

An operation runs on a state and leaves an outcome and a state.  The lemmas here run the
parts of which operations are made, one after the other.  An undisturbed store does what
its calls say, and what runs leaves the clock and the supply of token ids as they were
laid down.  Nothing but the publication of an event shows in the announcements, and no
operation that has published an event fails afterwards.
-/

namespace AccountSessions

def exec {ε α : Type} (action : ExceptT ε (StateM State) α) (state : State) :
    Except ε α × State :=
  StateT.run action.run state

section Parts

variable {ε α β : Type}

@[simp]
theorem exec_pure (value : α) (state : State) :
    exec (pure value : ExceptT ε (StateM State) α) state = (.ok value, state) :=
  rfl

theorem exec_bind
    (first : ExceptT ε (StateM State) α) (next : α → ExceptT ε (StateM State) β) (state : State) :
    exec (first >>= next) state =
      match exec first state with
      | (.ok value, later) => exec (next value) later
      | (.error fault, later) => (.error fault, later) := by
  change (match exec first state with
    | (outcome, later) => StateT.run (ExceptT.bindCont next outcome) later) = _
  rcases exec first state with ⟨outcome, later⟩
  cases outcome with
  | ok value => rfl
  | error fault => rfl

theorem exec_map (change : α → β) (action : ExceptT ε (StateM State) α) (state : State) :
    exec (change <$> action) state = ((exec action state).1.map change, (exec action state).2) := by
  rw [map_eq_pure_bind, exec_bind]
  rcases exec action state with ⟨outcome, later⟩
  cases outcome with
  | ok value => rfl
  | error fault => rfl

theorem fst_exec_bind_error
    {first : ExceptT ε (StateM State) α} {state : State} {fault : ε}
    (hfirst : (exec first state).1 = .error fault) (next : α → ExceptT ε (StateM State) β) :
    (exec (first >>= next) state).1 = .error fault := by
  rcases hexec : exec first state with ⟨outcome, later⟩
  rw [hexec] at hfirst
  dsimp only at hfirst
  rw [exec_bind, hexec, hfirst]

@[simp]
theorem exec_throw (fault : ε) (state : State) :
    exec (throw fault : ExceptT ε (StateM State) α) state = (.error fault, state) :=
  rfl

@[simp]
theorem exec_get (state : State) :
    exec (get : ExceptT ε (StateM State) State) state = (.ok state, state) :=
  rfl

@[simp]
theorem exec_set (later state : State) :
    exec (set later : ExceptT ε (StateM State) PUnit) state = (.ok (), later) :=
  rfl

theorem exec_tryCatch
    (action : ExceptT ε (StateM State) α) (handler : ε → ExceptT ε (StateM State) α)
    (state : State) :
    exec (tryCatch action handler) state =
      match exec action state with
      | (.ok value, later) => (.ok value, later)
      | (.error fault, later) => exec (handler fault) later := by
  change (match exec action state with
    | (outcome, later) =>
      StateT.run (match outcome with
        | .ok value => pure (.ok value)
        | .error fault => (handler fault).run : StateM State (Except ε α)) later) = _
  rcases exec action state with ⟨outcome, later⟩
  cases outcome with
  | ok value => rfl
  | error fault => rfl

theorem exec_adapt {ε' : Type}
    (change : ε → ε') (action : ExceptT ε (StateM State) α) (state : State) :
    exec (ExceptT.adapt change action) state =
      ((exec action state).1.mapError change, (exec action state).2) :=
  rfl

end Parts

/-! ## What an operation leads to -/

namespace TokenIds

def Offers (ids : TokenIds) (text : String) : Prop :=
  ids.fixed = some text ∨ ∃ number, text = ids.text number

/-- The id that is drawn next. -/
def next (ids : TokenIds) : String :=
  ids.fixed.getD (ids.text (ids.drawn + 1))

/-- What a draw leaves of the supply. -/
def rest (ids : TokenIds) : TokenIds :=
  if ids.fixed.isSome then ids else { ids with drawn := ids.drawn + 1 }

theorem offers_next (ids : TokenIds) : ids.Offers ids.next := by
  unfold next
  cases hfixed : ids.fixed with
  | some text => exact .inl hfixed
  | none => exact .inr ⟨_, rfl⟩

theorem le_drawn_rest (ids : TokenIds) : ids.drawn ≤ ids.rest.drawn := by
  unfold rest
  split
  · exact Nat.le_refl _
  · exact Nat.le_succ _

@[simp]
theorem fixed_rest (ids : TokenIds) : ids.rest.fixed = ids.fixed := by
  unfold rest
  split
  · rfl
  · rfl

@[simp]
theorem text_rest (ids : TokenIds) : ids.rest.text = ids.text := by
  unfold rest
  split
  · rfl
  · rfl

theorem offers_of_rest {ids : TokenIds} {text : String} (hoffers : ids.rest.Offers text) :
    ids.Offers text := by
  rcases hoffers with hfixed | ⟨number, hnumber⟩
  · exact .inl (ids.fixed_rest ▸ hfixed)
  · exact .inr ⟨number, ids.text_rest ▸ hnumber⟩

theorem next_of_unfixed {ids : TokenIds} (hfixed : ids.fixed = none) :
    ids.next = ids.text (ids.drawn + 1) := by
  rw [next, hfixed, Option.getD_none]

theorem rest_of_unfixed {ids : TokenIds} (hfixed : ids.fixed = none) :
    ids.rest = { ids with drawn := ids.drawn + 1 } := by
  rw [rest, hfixed, Option.isSome_none, if_neg Bool.false_ne_true]

theorem next_rest_of_unfixed {ids : TokenIds} (hfixed : ids.fixed = none) :
    ids.rest.next = ids.text (ids.drawn + 2) := by
  rw [rest_of_unfixed hfixed]
  exact next_of_unfixed hfixed

end TokenIds

/-- What shows that an event was published: the events that are kept, and the lines that
a publisher wrote to the log. -/
def State.announcements (state : State) : List Event × List Log.Line :=
  (state.published, state.log.filter (·.source == .events))

/-- The later state has the given database.  Besides it only the log and the events may
have grown, and the numbers of what was drawn may have advanced. -/
structure Follows (state : State) (database : Database) (later : State) : Prop where
  database : later.database = database
  now : later.now = state.now
  disturbances : later.disturbances = state.disturbances
  fixed : later.tokenIds.fixed = state.tokenIds.fixed
  text : later.tokenIds.text = state.tokenIds.text
  drawn : state.tokenIds.drawn ≤ later.tokenIds.drawn
  saltsDrawn : state.saltsDrawn ≤ later.saltsDrawn
  log : state.log <+: later.log

/-- The later state has the given database, and no event has been published. -/
structure Leads (state : State) (database : Database) (later : State) : Prop extends
    Follows state database later where
  silent : later.announcements = state.announcements

namespace Follows

theorem refl (state : State) : Follows state state.database state :=
  ⟨rfl, rfl, rfl, rfl, rfl, Nat.le_refl _, Nat.le_refl _, List.prefix_rfl⟩

theorem trans
    {state middle later : State} {first second : Database} (hfirst : Follows state first middle)
    (hsecond : Follows middle second later) :
    Follows state second later where
  database := hsecond.database
  now := hsecond.now.trans hfirst.now
  disturbances := hsecond.disturbances.trans hfirst.disturbances
  fixed := hsecond.fixed.trans hfirst.fixed
  text := hsecond.text.trans hfirst.text
  drawn := Nat.le_trans hfirst.drawn hsecond.drawn
  saltsDrawn := Nat.le_trans hfirst.saltsDrawn hsecond.saltsDrawn
  log := hfirst.log.trans hsecond.log

end Follows

namespace Leads

theorem refl (state : State) : Leads state state.database state :=
  ⟨.refl state, rfl⟩

theorem trans
    {state middle later : State} {first second : Database} (hfirst : Leads state first middle)
    (hsecond : Leads middle second later) :
    Leads state second later :=
  ⟨hfirst.toFollows.trans hsecond.toFollows, hsecond.silent.trans hfirst.silent⟩

theorem offers
    {state later : State} {database : Database} (hleads : Leads state database later)
    {text : String} (hoffers : later.tokenIds.Offers text) :
    state.tokenIds.Offers text := by
  rcases hoffers with hfixed | ⟨number, hnumber⟩
  · exact .inl (hleads.fixed.symm.trans hfixed)
  · exact .inr ⟨number, hleads.text ▸ hnumber⟩

end Leads

/-- The operation ends with the outcome and with the database. -/
def Yields {ε α : Type} (action : ExceptT ε (StateM State) α) (state : State)
    (outcome : Except ε α) (database : Database) : Prop :=
  ∃ later, exec action state = (outcome, later) ∧ Leads state database later

namespace Yields

variable {ε α β : Type} {state : State} {database second : Database}

theorem pure (value : α) (state : State) :
    Yields (Pure.pure value : ExceptT ε (StateM State) α) state (.ok value) state.database :=
  ⟨state, rfl, .refl state⟩

theorem throw (fault : ε) (state : State) :
    Yields (MonadExcept.throw fault : ExceptT ε (StateM State) α) state (.error fault)
      state.database :=
  ⟨state, rfl, .refl state⟩

theorem bind
    {first : ExceptT ε (StateM State) α} {next : α → ExceptT ε (StateM State) β} {value : α}
    {outcome : Except ε β} (hfirst : Yields first state (.ok value) database)
    (hnext : ∀ later, Leads state database later → Yields (next value) later outcome second) :
    Yields (first >>= next) state outcome second := by
  obtain ⟨middle, hexec, hleads⟩ := hfirst
  obtain ⟨later, hlater, hsecond⟩ := hnext middle hleads
  refine ⟨later, ?_, hleads.trans hsecond⟩
  rw [exec_bind, hexec]
  exact hlater

theorem bind_error
    {first : ExceptT ε (StateM State) α} {next : α → ExceptT ε (StateM State) β} {fault : ε}
    (hfirst : Yields first state (.error fault) database) :
    Yields (first >>= next) state (.error fault) database := by
  obtain ⟨later, hexec, hleads⟩ := hfirst
  exact ⟨later, by rw [exec_bind, hexec], hleads⟩

theorem get_bind
    {next : State → ExceptT ε (StateM State) α} {outcome : Except ε α}
    (hnext : Yields (next state) state outcome database) :
    Yields (get >>= next) state outcome database := by
  obtain ⟨later, hexec, hleads⟩ := hnext
  exact ⟨later, by rw [exec_bind, exec_get]; exact hexec, hleads⟩

theorem setDatabase (state : State) (database : Database) :
    Yields (set { state with database } : ExceptT ε (StateM State) PUnit) state (.ok ())
      database :=
  ⟨_, rfl, ⟨rfl, rfl, rfl, rfl, rfl, Nat.le_refl _, Nat.le_refl _, List.prefix_rfl⟩, rfl⟩

theorem tryCatch
    {action : ExceptT ε (StateM State) α} {handler : ε → ExceptT ε (StateM State) α} {value : α}
    (haction : Yields action state (.ok value) database) :
    Yields (MonadExcept.tryCatch action handler) state (.ok value) database := by
  obtain ⟨later, hexec, hleads⟩ := haction
  exact ⟨later, by rw [exec_tryCatch, hexec], hleads⟩

theorem tryCatch_error
    {action : ExceptT ε (StateM State) α} {handler : ε → ExceptT ε (StateM State) α} {fault : ε}
    {outcome : Except ε α} (haction : Yields action state (.error fault) database)
    (hhandler : ∀ later, Leads state database later →
      Yields (handler fault) later outcome second) :
    Yields (MonadExcept.tryCatch action handler) state outcome second := by
  obtain ⟨middle, hexec, hleads⟩ := haction
  obtain ⟨later, hlater, hsecond⟩ := hhandler middle hleads
  refine ⟨later, ?_, hleads.trans hsecond⟩
  rw [exec_tryCatch, hexec]
  exact hlater

end Yields

/-- The later state has the given database, and an event has been published only if a
success may publish one and the outcome is a success. -/
structure Concludes {ε α : Type} (loud : Bool) (state : State) (outcome : Except ε α)
    (database : Database) (later : State) : Prop extends Follows state database later where
  silent : (loud = true → ∃ fault, outcome = .error fault) →
    later.announcements = state.announcements

namespace Concludes

variable {ε α β : Type} {loud : Bool} {state middle later : State} {outcome : Except ε α}
  {database second : Database}

theorem of_leads (hleads : Leads state database later) :
    Concludes loud state outcome database later :=
  ⟨hleads.toFollows, fun _ => hleads.silent⟩

theorem leads_of_error {fault : ε}
    (hconcludes : Concludes loud state (.error fault : Except ε α) database later) :
    Leads state database later :=
  ⟨hconcludes.toFollows, hconcludes.silent fun _ => ⟨fault, rfl⟩⟩

theorem leads (hconcludes : Concludes false state outcome database later) :
    Leads state database later :=
  ⟨hconcludes.toFollows, hconcludes.silent fun h => nomatch h⟩

theorem after
    (hbefore : Leads state database middle)
    (hconcludes : Concludes loud middle outcome second later) :
    Concludes loud state outcome second later :=
  ⟨hbefore.toFollows.trans hconcludes.toFollows,
    fun hfails => (hconcludes.silent hfails).trans hbefore.silent⟩

theorem change
    {ε' : Type} {other : Except ε' β}
    (hfails : ∀ fault, other = .error fault → ∃ cause, outcome = .error cause)
    (hconcludes : Concludes loud state outcome database later) :
    Concludes loud state other database later := by
  refine ⟨hconcludes.toFollows, fun hother => hconcludes.silent ?_⟩
  intro hloud
  obtain ⟨fault, hfault⟩ := hother hloud
  exact hfails fault hfault

end Concludes

/-- The operation ends in a way that satisfies the condition. -/
def EndsBy {ε α : Type} (loud : Bool) (action : ExceptT ε (StateM State) α) (state : State)
    (post : Except ε α → Database → Prop) : Prop :=
  ∃ outcome database,
    (∃ later, exec action state = (outcome, later) ∧
      Concludes loud state outcome database later) ∧
    post outcome database

/-- The operation ends in a way that satisfies the condition, and publishes an event at
most when it succeeds. -/
abbrev Ends {ε α : Type} (action : ExceptT ε (StateM State) α) (state : State)
    (post : Except ε α → Database → Prop) : Prop :=
  EndsBy true action state post

/-- The operation ends in a way that satisfies the condition and publishes no event. -/
abbrev Rests {ε α : Type} (action : ExceptT ε (StateM State) α) (state : State)
    (post : Except ε α → Database → Prop) : Prop :=
  EndsBy false action state post

/-- The operation succeeds with nothing to report; it may publish an event and leaves the
database alone. -/
def Announces (action : ExceptT ε (StateM State) Unit) (state : State) : Prop :=
  ∃ later, exec action state = (.ok (), later) ∧ Follows state state.database later

namespace EndsBy

variable {ε α β : Type} {loud : Bool} {state : State} {database : Database}

/-- A step in the middle of an operation that began on the first state. -/
theorem bind
    {first : ExceptT ε (StateM State) α} {next : α → ExceptT ε (StateM State) β} {value : α}
    {post : Except ε β → Database → Prop} {middle : State} {second : Database}
    (hbefore : Leads state database middle) (hfirst : Yields first middle (.ok value) second)
    (hnext : ∀ later, Leads state second later → EndsBy loud (next value) later post) :
    EndsBy loud (first >>= next) middle post := by
  obtain ⟨last, hexec, hleads⟩ := hfirst
  obtain ⟨outcome, third, ⟨later, hlater, hthird⟩, hpost⟩ := hnext last (hbefore.trans hleads)
  refine ⟨outcome, third, ⟨later, ?_, hthird.after hleads⟩, hpost⟩
  rw [exec_bind, hexec]
  exact hlater

theorem stay
    {first : ExceptT ε (StateM State) α} {next : α → ExceptT ε (StateM State) β} {value : α}
    {post : Except ε β → Database → Prop} (hfirst : exec first state = (.ok value, state))
    (hnext : EndsBy loud (next value) state post) :
    EndsBy loud (first >>= next) state post := by
  obtain ⟨outcome, database, ⟨later, hexec, hlater⟩, hpost⟩ := hnext
  refine ⟨outcome, database, ⟨later, ?_, hlater⟩, hpost⟩
  rw [exec_bind, hfirst]
  exact hexec

theorem quiet
    {first : ExceptT ε (StateM State) α} {next : α → ExceptT ε (StateM State) β} {value : α}
    {post : Except ε β → Database → Prop} {middle : State}
    (hbefore : Leads state database middle)
    (hfirst : Yields first middle (.ok value) middle.database)
    (hnext : ∀ later, Leads state database later → EndsBy loud (next value) later post) :
    EndsBy loud (first >>= next) middle post := by
  apply bind hbefore hfirst
  rw [hbefore.database]
  exact hnext

theorem mono
    {action : ExceptT ε (StateM State) α} {before post : Except ε α → Database → Prop}
    (haction : EndsBy loud action state before)
    (himplies : ∀ outcome database, before outcome database → post outcome database) :
    EndsBy loud action state post := by
  obtain ⟨outcome, database, hends, hbefore⟩ := haction
  exact ⟨outcome, database, hends, himplies outcome database hbefore⟩

theorem map
    {action : ExceptT ε (StateM State) α} {change : α → β}
    {before : Except ε α → Database → Prop} {post : Except ε β → Database → Prop}
    (haction : EndsBy loud action state before)
    (hchange : ∀ outcome database, before outcome database → post (outcome.map change) database) :
    EndsBy loud (change <$> action) state post := by
  obtain ⟨outcome, database, ⟨later, hexec, hlater⟩, hbefore⟩ := haction
  refine ⟨outcome.map change, database, ⟨later, ?_, hlater.change ?_⟩, hchange _ _ hbefore⟩
  · rw [exec_map, hexec]
  · intro fault hfault
    cases outcome with
    | ok value => cases hfault
    | error fault => exact ⟨fault, rfl⟩

theorem of_map
    {action : ExceptT ε (StateM State) α} {change : α → β} {post : Except ε β → Database → Prop}
    (hends : EndsBy loud (change <$> action) state post) :
    EndsBy loud action state fun outcome database => post (outcome.map change) database := by
  rcases haction : exec action state with ⟨outcome, later⟩
  obtain ⟨mapped, database, ⟨last, hexec, hlater⟩, hpost⟩ := hends
  rw [exec_map, haction] at hexec
  obtain ⟨rfl, rfl⟩ := Prod.mk.inj hexec
  refine ⟨outcome, database, ⟨later, haction, hlater.change ?_⟩, hpost⟩
  rintro fault rfl
  exact ⟨fault, rfl⟩

theorem tryCatch_error
    {action : ExceptT ε (StateM State) α} {handler : ε → ExceptT ε (StateM State) α} {fault : ε}
    {post : Except ε α → Database → Prop} {middle : State}
    (hbefore : Leads state database middle)
    (haction : Yields action middle (.error fault) middle.database)
    (hhandler : ∀ later, Leads state database later → EndsBy loud (handler fault) later post) :
    EndsBy loud (tryCatch action handler) middle post := by
  obtain ⟨last, hexec, hleads⟩ := haction
  have hlast := hbefore.trans hleads
  rw [hbefore.database] at hlast
  obtain ⟨outcome, third, ⟨later, hlater, hthird⟩, hpost⟩ := hhandler last hlast
  refine ⟨outcome, third, ⟨later, ?_, hthird.after hleads⟩, hpost⟩
  rw [exec_tryCatch, hexec]
  exact hlater

theorem last
    {action : ExceptT ε (StateM State) α} {outcome : Except ε α}
    {post : Except ε α → Database → Prop} {middle : State} (hbefore : Leads state database middle)
    (haction : Yields action middle outcome middle.database) (hpost : post outcome database) :
    EndsBy loud action middle post := by
  rw [← hbefore.database] at hpost
  obtain ⟨later, hexec, hleads⟩ := haction
  exact ⟨outcome, middle.database, ⟨later, hexec, .of_leads hleads⟩, hpost⟩

/-- An event is published when all that can fail is over. -/
theorem announce
    {first : ExceptT ε (StateM State) Unit} {next : Unit → ExceptT ε (StateM State) α} {value : α}
    {post : Except ε α → Database → Prop} {middle : State} (hbefore : Leads state database middle)
    (hfirst : Announces first middle)
    (hnext : ∀ later, exec (next ()) later = (.ok value, later)) (hpost : post (.ok value) database) :
    Ends (first >>= next) middle post := by
  obtain ⟨later, hexec, hfollows⟩ := hfirst
  rw [← hbefore.database] at hpost
  refine ⟨.ok value, middle.database, ⟨later, ?_, hfollows, ?_⟩, hpost⟩
  · rw [exec_bind, hexec]
    exact hnext later
  · intro hfails
    obtain ⟨fault, hfault⟩ := hfails rfl
    cases hfault

theorem announce_last
    {action : ExceptT ε (StateM State) Unit} {post : Except ε Unit → Database → Prop}
    {middle : State} (hbefore : Leads state database middle) (haction : Announces action middle)
    (hpost : post (.ok ()) database) :
    Ends action middle post := by
  rw [← bind_pure action]
  exact announce hbefore haction (fun later => exec_pure () later) hpost

theorem apply
    {action : ExceptT ε (StateM State) α} {post : Except ε α → Database → Prop}
    (hends : EndsBy loud action state post) :
    post (exec action state).1 (exec action state).2.database ∧
      Follows state (exec action state).2.database (exec action state).2 := by
  obtain ⟨outcome, database, ⟨later, hexec, hlater⟩, hpost⟩ := hends
  rw [hexec, hlater.database]
  exact ⟨hpost, hlater.toFollows⟩

/-- A failure has published nothing. -/
theorem leads_of_error
    {action : ExceptT ε (StateM State) α} {post : Except ε α → Database → Prop}
    (hends : EndsBy loud action state post) {fault : ε}
    (hfault : (exec action state).1 = .error fault) :
    Leads state (exec action state).2.database (exec action state).2 := by
  obtain ⟨outcome, database, ⟨later, hexec, hlater⟩, -⟩ := hends
  rw [hexec] at hfault ⊢
  dsimp only at hfault ⊢
  subst hfault
  rw [hlater.database]
  exact hlater.leads_of_error

end EndsBy

namespace Yields

theorem endsBy
    {ε α : Type} {loud : Bool} {action : ExceptT ε (StateM State) α} {state : State}
    {outcome : Except ε α} {database : Database} {post : Except ε α → Database → Prop}
    (hyields : Yields action state outcome database) (hpost : post outcome database) :
    EndsBy loud action state post := by
  obtain ⟨later, hexec, hleads⟩ := hyields
  exact ⟨outcome, database, ⟨later, hexec, .of_leads hleads⟩, hpost⟩

end Yields

namespace Rests

variable {ε α : Type} {state : State} {action : ExceptT ε (StateM State) α}
  {post : Except ε α → Database → Prop}

theorem yields (hrests : Rests action state post) :
    ∃ outcome database, Yields action state outcome database ∧ post outcome database := by
  obtain ⟨outcome, database, ⟨later, hexec, hlater⟩, hpost⟩ := hrests
  exact ⟨outcome, database, ⟨later, hexec, hlater.leads⟩, hpost⟩

theorem ends (hrests : Rests action state post) : Ends action state post := by
  obtain ⟨outcome, database, hyields, hpost⟩ := hrests.yields
  exact hyields.endsBy hpost

end Rests

/-- A step that keeps the database, whatever its outcome. -/
theorem EndsBy.pass
    {ε α β : Type} {loud : Bool} {state middle : State} {database : Database}
    {first : ExceptT ε (StateM State) α} {next : α → ExceptT ε (StateM State) β}
    {post : Except ε β → Database → Prop} (hbefore : Leads state database middle)
    (hfirst : Rests first middle fun _ later => later = middle.database)
    (hfails : ∀ fault, post (.error fault) database)
    (hnext : ∀ value later, Leads state database later → EndsBy loud (next value) later post) :
    EndsBy loud (first >>= next) middle post := by
  obtain ⟨outcome, _, hyields, rfl⟩ := hfirst.yields
  cases outcome with
  | ok value => exact .quiet hbefore hyields (hnext value)
  | error fault => exact .last hbefore (.bind_error hyields) (hfails fault)

/-! ## Operations of any service -/

namespace Operation

theorem follows_note (line : Log.Line) (state : State) :
    Follows state state.database { state with log := state.log ++ [line] } :=
  ⟨rfl, rfl, rfl, rfl, rfl, Nat.le_refl _, Nat.le_refl _, List.prefix_append _ _⟩

/-- No event is written under the source, so what is written under it announces nothing. -/
class Quiet (source : Log.Source) : Prop where
  ne_events : source ≠ .events

instance : Quiet .service := ⟨nofun⟩

instance : Quiet .store := ⟨nofun⟩

instance : Quiet .tokens := ⟨nofun⟩

instance : Quiet .passwords := ⟨nofun⟩

theorem yields_note
    (level : Log.Level) (source : Log.Source) [Quiet source] (text : String) (state : State) :
    Yields (note level source text) state (.ok ()) state.database := by
  refine ⟨_, rfl, follows_note ⟨level, source, text⟩ state, ?_⟩
  have hother : (source == .events) = false := beq_eq_false_iff_ne.mpr Quiet.ne_events
  simp [State.announcements, List.filter_append, hother]

theorem yields_note_return
    {α : Type} (level : Log.Level) (source : Log.Source) [Quiet source] (text : String)
    (value : α) (state : State) :
    Yields (note level source text >>= fun _ => pure value) state (.ok value) state.database := by
  apply (yields_note level source text state).bind
  intro later hlater
  rw [← hlater.database]
  exact .pure value later

theorem exec_now (state : State) : exec now state = (.ok state.now, state) :=
  rfl

theorem exec_note
    (level : Log.Level) (source : Log.Source) (text : String) (state : State) :
    exec (note level source text) state =
      (.ok (), { state with log := state.log ++ [⟨level, source, text⟩] }) :=
  rfl

theorem exec_drawSalt (state : State) :
    exec drawSalt state =
      (.ok (Password.numberedSalt state.saltsDrawn),
        { state with saltsDrawn := state.saltsDrawn + 1 }) :=
  rfl

theorem exec_ofBreakdown_ok {α : Type} (value : α) (state : State) :
    exec (ofBreakdown (.ok value)) state = (.ok value, state) :=
  rfl

theorem now_bind
    {α : Type} {state : State} {next : Moment → Operation α} {outcome : Except Failure α}
    {database : Database} (hnext : Yields (next state.now) state outcome database) :
    Yields (now >>= next) state outcome database := by
  obtain ⟨later, hexec, hleads⟩ := hnext
  refine ⟨later, ?_, hleads⟩
  rw [exec_bind]
  exact hexec

theorem yields_refuse {α : Type} (kind : Refusal.Kind) (state : State) :
    Yields (refuse kind : Operation α) state (.error (.usual kind)) state.database :=
  ⟨state, rfl, .refl state⟩

theorem yields_note_refuse
    {α : Type} (level : Log.Level) (source : Log.Source) [Quiet source] (text : String)
    (kind : Refusal.Kind) (state : State) (rest : Unit → Operation α) :
    Yields (note level source text >>= fun _ => refuse kind >>= rest) state
      (.error (.usual kind)) state.database := by
  apply (yields_note level source text state).bind
  intro later hlater
  rw [← hlater.database]
  exact .bind_error (yields_refuse kind later)

theorem yields_note_throw
    {α : Type} (level : Log.Level) (source : Log.Source) [Quiet source] (text : String)
    (failure : Failure) (state : State) :
    Yields (note level source text >>= fun _ => (throw failure : Operation α)) state
      (.error failure) state.database := by
  apply (yields_note level source text state).bind
  intro later hlater
  rw [← hlater.database]
  exact .throw failure later

theorem yields_breakDown {α : Type} (cause : Breakdown) (state : State) :
    Yields (breakDown cause : Operation α) state (.error (.broken cause)) state.database :=
  ⟨state, rfl, .refl state⟩

theorem yields_ofBreakdown {α : Type} (outcome : Except Breakdown α) (state : State) :
    Yields (ofBreakdown outcome) state (outcome.mapError .broken) state.database := by
  cases outcome with
  | ok value => exact .pure value state
  | error cause => exact yields_breakDown cause state

theorem exec_drawTokenId (state : State) :
    exec drawTokenId state =
      (.ok state.tokenIds.next, { state with tokenIds := state.tokenIds.rest }) := by
  unfold TokenIds.next TokenIds.rest
  cases hfixed : state.tokenIds.fixed with
  | some text => simp [drawTokenId, exec_bind, hfixed]
  | none =>
      simp only [drawTokenId, exec_bind, exec_get, hfixed, exec_set]
      rfl

theorem yields_drawSalt (state : State) :
    Yields drawSalt state (.ok (Password.numberedSalt state.saltsDrawn)) state.database :=
  ⟨_, rfl, ⟨rfl, rfl, rfl, rfl, rfl, Nat.le_refl _, Nat.le_succ _, List.prefix_rfl⟩, rfl⟩

end Operation

end AccountSessions
