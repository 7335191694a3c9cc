import Tenancy.Directory.Action
import Tenancy.Directory.Document

/-!
# Creating and deleting users

A user is an account of the identity service and a platform user of the same id. The account comes
first and goes last, so a fault in between leaves an account alone and never a platform user.
-/

namespace Tenancy.Directory

/-- The code by which the platform says that it knows no such user. -/
def unknownUserCode : String := "20003"

def usersUrl (s : Session) : String :=
  s.endpoint ++ "/v2/users"

def userUrl (s : Session) (id : UserId) : String :=
  usersUrl s ++ "/" ++ id.text

def accountsUrl (endpoint : String) : String :=
  endpoint ++ "/Users"

def accountUrl (endpoint : String) (id : UserId) : String :=
  accountsUrl endpoint ++ "/" ++ id.text

def create (s : Session) (username password : String) : Action UserId := do
  let name ← Phrase.of? username
  if password = "" then throw (.invalid "password must not be empty")
  let endpoint ← Action.endpoint
  let document ← Action.performJson .identity .post (accountsUrl endpoint) s.token
    (some (Account.creation name.text password))
  let id ← Action.noting (Account.createdId name.text document) fun f =>
    ⟨.warn, "identity account may exist but its id could not be read",
      [("username", name.text), ("error", f.message)]⟩
  Action.noting
    (Action.perform .platform .post (usersUrl s) s.token (some (Member.creation id))) fun f =>
      ⟨.warn, "platform user creation failed; identity account was left in place",
        [("user_id", id.text), ("username", name.text), ("error", f.message)]⟩
  Action.say ⟨.info, "user created", [("user_id", id.text), ("username", name.text)]⟩
  pure id

/-- Deletes the platform user; that it is not there is no fault. -/
def deleteMember (s : Session) (id : UserId) : Action Unit := do
  match ← (Action.perform .platform .delete (userUrl s id) s.token none).outcome with
  | .ok () => pure ()
  | .error f =>
    if f.RefusedWith unknownUserCode then
      Action.say ⟨.warn, "platform user already absent; deleting identity account",
        [("user_id", id.text)]⟩
    else throw f

def delete (s : Session) (id : UserId) : Action Unit := do
  deleteMember s id
  let endpoint ← Action.endpoint.noting fun f =>
    ⟨.warn, "identity endpoint unavailable after platform user was removed",
      [("user_id", id.text), ("error", f.message)]⟩
  Action.noting
    (Action.perform .identity .delete (accountUrl endpoint id) s.token none) fun f =>
      ⟨.warn, "identity account deletion failed after platform user was removed",
        [("user_id", id.text), ("error", f.message)]⟩
  Action.say ⟨.info, "user deleted", [("user_id", id.text)]⟩

end Tenancy.Directory
