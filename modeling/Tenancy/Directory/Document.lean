import Tenancy.Json.Record
import Tenancy.User

/-!
# Documents about users

What the two services say about users, and what they are told: members of a role, accounts, and the
bodies that create an account and a platform user.
-/

namespace Tenancy

def Json.usable (context : String) : Except Json.Mismatch α → Except Fault α :=
  Except.mapError fun m => .internal s!"failed to decode {context}: {m.message}"

/-- An identifier sent by a service. -/
def UserId.received (prelude : String) (s : String) : Except Fault UserId :=
  (Identifier.of? .user s).mapError fun f => .internal s!"{prelude}: {f.message}"

namespace Member

def metadataShape : Json.Shape (Option String) String where
  title := "ResourceMetadata"
  fields := [.single "guid" ["Guid"] true Json.asString]
  empty := none
  finish := Json.require "guid"

def entityShape : Json.Shape (Option Bool) Bool where
  title := "PlatformUserEntity"
  fields := [.single "admin" ["Admin"] false Json.asBool]
  empty := none
  finish := fun admin => .ok (admin.getD false)

/-- The id of a user and whether it is an administrator. -/
def shape : Json.Shape (Option String × Option Bool) (String × Bool) where
  title := "PlatformUserResource"
  fields := [
    (Json.Field.single "metadata" ["Metadata"] true metadataShape.decode).inFst,
    (Json.Field.single "entity" ["Entity"] false entityShape.decode).inSnd]
  empty := (none, none)
  finish := fun r => do
    let guid ← Json.require "metadata" r.1
    pure (guid, r.2.getD false)

def ofJson (v : Json) : Except Fault Member := do
  let (guid, isAdmin) ← Json.usable "platform user resource" (shape.decode v)
  let id ← UserId.received "platform API returned an invalid guid" guid
  pure ⟨id, isAdmin⟩

end Member

namespace Account

def shape : Json.Shape (Option String × Option String) (String × String) where
  title := "IdentityUserResource"
  fields := [
    (Json.Field.single "id" ["Id"] true Json.asString).inFst,
    (Json.Field.single "userName" ["Username", "username"] true Json.asString).inSnd]
  empty := (none, none)
  finish := fun r => do
    let id ← Json.require "id" r.1
    let username ← Json.require "userName" r.2
    pure (id, username)

def listShape : Json.Shape (Option (List (String × String))) (List (String × String)) where
  title := "IdentityUserResources"
  fields := [.single "resources" ["Resources"] false (Json.asList shape.decode)]
  empty := none
  finish := fun resources => .ok (resources.getD [])

def ofPair (p : String × String) : Except Fault Account := do
  let id ← UserId.received "identity API returned an invalid id" p.1
  pure ⟨id, p.2⟩

/-- All accounts of a document; one invalid id spoils it. -/
def listOfJson (v : Json) : Except Fault (List Account) := do
  let pairs ← Json.usable "identity user query response" (listShape.decode v)
  pairs.mapM ofPair

def createdShape : Json.Shape (Option String) String where
  title := "CreatedIdentityUser"
  fields := [.single "id" ["Id"] true Json.asString]
  empty := none
  finish := Json.require "id"

/-- The id that the identity service gave to a new account. -/
def createdId (username : String) (v : Json) : Except Fault UserId := do
  let id ← Json.usable "identity user creation response" (createdShape.decode v)
  UserId.received s!"identity API returned an invalid id for '{username}'" id

/-- A new account: the username is its address and both its names too. -/
def creation (username password : String) : Json :=
  .ofMembers [
    ("userName", .string username),
    ("emails", .array [.ofMembers [("value", .string username)]]),
    ("password", .string password),
    ("name", .ofMembers [("givenName", .string username), ("familyName", .string username)])]

end Account

def Member.creation (id : UserId) : Json :=
  .ofMembers [("guid", .string id.text)]

end Tenancy
