import AccountSessions.Proofs.ServiceCalls

/-!
# Calls of the service

A caller of the service makes one call after the other, each with its arguments.  What a
call can do to the database is said once, as a relation between the call, its outcome
and the two databases.  Everything that is proved of runs rests on this relation alone.
-/

namespace AccountSessions

open Operation

inductive Call where
  | register (username email password name : String)
  | verifyEmail (userId : Int)
  | login (identifier password : String)
  | refresh (token : String)
  | validateToken (token : String)
  | logout (userId : Int) (token : String)
  | logoutAll (userId : Int)
  | deactivate (userId : Int)
  | activate (userId : Int)
  | listSessions (userId : Int)
  | purge

inductive Answer where
  | account (account : Account)
  | session (session : Session)
  | claims (claims : Token.Claims)
  | records (records : List SessionRecord)
  | count (count : Nat)
  | done

namespace Call

def perform (service : Service) : Call → Operation Answer
  | register username email password name =>
    .account <$> service.register username email password name
  | verifyEmail userId => .account <$> Service.verifyEmail userId
  | login identifier password => .session <$> service.login identifier password
  | refresh token => .session <$> service.refresh token
  | validateToken token => .claims <$> service.validateToken token
  | logout userId token => (fun _ => .done) <$> service.logout userId token
  | logoutAll userId => .count <$> service.logoutAll userId
  | deactivate userId => .count <$> Service.deactivate userId
  | activate userId => (fun _ => .done) <$> Service.activate userId
  | listSessions userId => .records <$> Service.listSessions userId
  | purge => .count <$> Service.purge

def Closes (userId : Int) : Call → Prop
  | logoutAll id => id = userId
  | deactivate id => id = userId
  | _ => False

/-- Nothing is issued, checked or hashed for the call. -/
def Administrative : Call → Prop
  | verifyEmail _ => True
  | logoutAll _ => True
  | deactivate _ => True
  | activate _ => True
  | listSessions _ => True
  | purge => True
  | _ => False

def Reads : Call → Prop
  | refresh _ => True
  | validateToken _ => True
  | listSessions _ => True
  | _ => False

end Call

/-- What a call does to the database, by its outcome. -/
inductive Effect (service : Service) (ids : TokenIds) (now : Moment) (db : Database) :
    Call → Except Failure Answer → Database → Prop where
  | registered {username email password name hash : String} {id : Int} {added : Database}
      {account : Account}
      (hadd : db.addAccount?
        { username := some username
          email := some email
          passwordHash := some hash
          name := some name
          emailVerified := false
          isActive := true } now = some (id, added))
      (hstored : added.account? id = some account) :
      Effect service ids now db (.register username email password name)
        (.ok (.account account.withoutHash)) added
  | verified {userId : Int} {account : Account}
      (hstored : (db.markVerified userId now).account? userId = some account) :
      Effect service ids now db (.verifyEmail userId) (.ok (.account account.withoutHash))
        (db.markVerified userId now)
  | loggedIn {identifier password accessToken refreshToken tokenId : String} {account : Account}
      {expires : Moment} {id : Int} {added : Database}
      (hfound : db.accountOf? identifier = some account)
      (hfits : Store.fitsColumn account.id = true) (hoffers : ids.Offers tokenId)
      (hissue : service.issuer.issue .refresh now tokenId account.id (some account.email) =
        .ok refreshToken)
      (hexpires : now.add? service.issuer.refreshTtl = some expires)
      (hadd : db.addRecord? account.id refreshToken expires now = some (id, added))
      (hverified : account.emailVerified = true) (hactive : account.isActive = true) :
      Effect service ids now db (.login identifier password)
        (.ok (.session (service.session { account with lastLoginAt := some now } accessToken
          refreshToken)))
        (added.stampLogin account.id now)
  | loggedOut {userId : Int} {token : String} {claims : Token.Claims}
      (hvalid : service.issuer.validate now .refresh token = .ok claims)
      (howner : claims.userId = userId) (hopen : db.countOpen (·.token == token) ≠ 0) :
      Effect service ids now db (.logout userId token) (.ok .done)
        (db.revokeWhere (·.token == token) now)
  | loggedOutAll {userId : Int} :
      Effect service ids now db (.logoutAll userId)
        (.ok (.count (db.countOpen (·.userId == userId))))
        (db.revokeWhere (·.userId == userId) now)
  | deactivated {userId : Int} :
      Effect service ids now db (.deactivate userId)
        (.ok (.count (db.countOpen (·.userId == userId))))
        ((db.setActive userId false now).revokeWhere (·.userId == userId) now)
  | activated {userId : Int} (hhas : db.hasAccount userId = true) :
      Effect service ids now db (.activate userId) (.ok .done) (db.setActive userId true now)
  | purged :
      Effect service ids now db .purge (.ok (.count (db.countSpent now))) (db.sweep now)
  | read {call : Call} {outcome : Except Failure Answer} (hreads : call.Reads) :
      Effect service ids now db call outcome db
  | refused {call : Call} {failure : Failure}
      (hpowerless : ∀ userId, call.Closes userId → Store.fitsColumn userId = true →
        db.hasAccount userId = false) :
      Effect service ids now db call (.error failure) db

structure FreshRecord (service : Service) (ids : TokenIds) (now : Moment) (db : Database)
    (account : Account) (tokenId : String) (record : SessionRecord) : Prop where
  stored : account ∈ db.accounts
  fits : Store.fitsColumn account.id = true
  offers : ids.Offers tokenId
  issued : service.issuer.issue .refresh now tokenId account.id (some account.email) =
    .ok record.token
  expires : now.add? service.issuer.refreshTtl = some record.expiresAt
  owner : record.userId = account.id
  createdAt : record.createdAt = now

/-- Records come from logins and are otherwise at most revoked. -/
theorem Effect.mem_records
    {service : Service} {ids : TokenIds} {now : Moment} {db later : Database} {call : Call}
    {outcome : Except Failure Answer} (heffect : Effect service ids now db call outcome later)
    {record : SessionRecord} (hmem : record ∈ later.records) :
    (∃ old ∈ db.records, Database.SameLogin record old) ∨
      ∃ account tokenId, FreshRecord service ids now db account tokenId record := by
  cases heffect with
  | registered hadd =>
      obtain ⟨account, rfl, -⟩ := Database.addAccount?_eq_some hadd
      exact .inl ⟨record, hmem, .refl record⟩
  | verified => exact .inl ⟨record, hmem, .refl record⟩
  | loggedIn hfound hfits hoffers hissue hexpires hadd =>
      obtain ⟨-, rfl⟩ := Database.addRecord?_eq_some hadd
      rcases List.mem_append.mp hmem with hold | hnew
      · exact .inl ⟨record, hold, .refl record⟩
      · rw [List.mem_singleton.mp hnew]
        exact .inr ⟨_, _, Database.mem_of_accountOf? hfound, hfits, hoffers, hissue, hexpires,
          rfl, rfl⟩
  | loggedOut _ _ =>
      obtain ⟨old, hold, hsame, -⟩ := Database.mem_revokeWhere hmem
      exact .inl ⟨old, hold, hsame⟩
  | loggedOutAll =>
      obtain ⟨old, hold, hsame, -⟩ := Database.mem_revokeWhere hmem
      exact .inl ⟨old, hold, hsame⟩
  | deactivated =>
      obtain ⟨old, hold, hsame, -⟩ := Database.mem_revokeWhere hmem
      exact .inl ⟨old, hold, hsame⟩
  | activated => exact .inl ⟨record, hmem, .refl record⟩
  | purged => exact .inl ⟨record, List.mem_of_mem_filter hmem, .refl record⟩
  | read _ => exact .inl ⟨record, hmem, .refl record⟩
  | refused _ => exact .inl ⟨record, hmem, .refl record⟩

theorem Effect.of_untouched
    {service : Service} {state : State} {α : Type} {answer : α → Answer} {call : Call}
    (hharmless : ∀ userId, ¬ call.Closes userId) {outcome : Except Failure α} {db : Database}
    (huntouched : Service.Untouched state outcome db) :
    Effect service state.tokenIds state.now state.database call (outcome.map answer) db := by
  obtain ⟨⟨failure, rfl⟩, rfl⟩ := huntouched
  exact .refused fun userId hcloses => absurd hcloses (hharmless userId)

theorem effect_of_perform
    {state : State} (hundisturbed : state.disturbances = []) (service : Service) (call : Call) :
    Ends (call.perform service) state
      (Effect service state.tokenIds state.now state.database call) := by
  cases call with
  | register username email password name =>
      apply (Service.ends_register hundisturbed service username email password name).map
      rintro outcome db (huntouched | ⟨hash, id, account, hadd, hstored, rfl⟩)
      · exact .of_untouched (by rintro _ ⟨⟩) huntouched
      · exact .registered hadd hstored
  | verifyEmail userId =>
      apply (Service.ends_verifyEmail hundisturbed userId).ends.map
      rintro outcome db (huntouched | ⟨account, hstored, rfl, rfl⟩)
      · exact .of_untouched (by rintro _ ⟨⟩) huntouched
      · exact .verified hstored
  | login identifier password =>
      apply (Service.ends_login hundisturbed service identifier password).map
      rintro outcome db (huntouched | ⟨account, hfound, hverified, hactive, accessToken, tokenId,
        refreshToken, expires, id, added, hfits, hoffers, hissue, hexpires, hadd, rfl, rfl⟩)
      · exact .of_untouched (by rintro _ ⟨⟩) huntouched
      · exact .loggedIn hfound hfits hoffers hissue hexpires hadd hverified hactive
  | refresh token =>
      apply (Service.ends_refresh hundisturbed service token).ends.map
      rintro outcome db ⟨rfl, -⟩
      exact .read trivial
  | validateToken token =>
      apply (Service.ends_validateToken hundisturbed service token).ends.map
      rintro outcome db ⟨rfl, -⟩
      exact .read trivial
  | logout userId token =>
      apply (Service.ends_logout hundisturbed service userId token).map
      rintro outcome db (huntouched | ⟨claims, hvalid, howner, hopen, rfl, rfl⟩)
      · exact .of_untouched (by rintro _ ⟨⟩) huntouched
      · exact .loggedOut hvalid howner hopen
  | logoutAll userId =>
      apply (Service.ends_logoutAll hundisturbed service userId).map
      rintro outcome db (⟨hfits, ⟨failure, rfl⟩, rfl⟩ | ⟨rfl, rfl⟩)
      · refine .refused ?_
        rintro _ rfl hcolumn
        exact absurd hcolumn hfits
      · exact .loggedOutAll
  | deactivate userId =>
      apply (Service.ends_deactivate hundisturbed userId).ends.map
      rintro outcome db (⟨hpowerless, ⟨failure, rfl⟩, rfl⟩ | ⟨rfl, rfl⟩)
      · refine .refused ?_
        rintro _ rfl
        exact hpowerless
      · exact .deactivated
  | activate userId =>
      apply (Service.ends_activate hundisturbed userId).ends.map
      rintro outcome db (huntouched | ⟨hhas, rfl, rfl⟩)
      · exact .of_untouched (by rintro _ ⟨⟩) huntouched
      · exact .activated hhas
  | listSessions userId =>
      apply (Service.ends_listSessions hundisturbed userId).ends.map
      rintro outcome db rfl
      exact .read trivial
  | purge =>
      apply (Service.ends_purge hundisturbed).ends.map
      rintro outcome db ⟨rfl, rfl⟩
      exact .purged

end AccountSessions
