/-
# Data of contact, domain and test events

What is told of a contact or a domain when it was created, changed or
deleted, and what a test delivery holds.

Key definitions: `Event.ContactData`, `Event.DomainData`, `Event.TestData`.
-/
import SignedHooks.Event.Record

namespace SignedHooks
namespace Event

open Json (Value Object)

/-- What is told of a contact. -/
structure ContactData where
  /-- The contact. -/
  id : String
  /-- Its address. -/
  email : String
  /-- The book that holds it. -/
  contactBookId : Option String
  /-- Whether it is subscribed. -/
  subscribed : Option Bool
  /-- The first name. -/
  firstName : Option String
  /-- The last name. -/
  lastName : Option String
  /-- What else is held of it. -/
  properties : Option Object
  /-- When it was created. -/
  createdAt : Option String
  /-- When it was changed. -/
  updatedAt : Option String

namespace ContactData

/-- The field `id`. -/
def idField : Field String := ⟨"id", readText⟩

/-- The field `email`. -/
def emailField : Field String := ⟨"email", readText⟩

/-- The field `contactBookId`. -/
def contactBookIdField : Field String := ⟨"contactBookId", readText⟩

/-- The field `subscribed`. -/
def subscribedField : Field Bool := ⟨"subscribed", readFlag⟩

/-- The field `firstName`. -/
def firstNameField : Field String := ⟨"firstName", readText⟩

/-- The field `lastName`. -/
def lastNameField : Field String := ⟨"lastName", readText⟩

/-- The field `properties`. -/
def propertiesField : Field Object := ⟨"properties", readMembers⟩

/-- The field `createdAt`. -/
def createdAtField : Field String := ⟨"createdAt", readText⟩

/-- The field `updatedAt`. -/
def updatedAtField : Field String := ⟨"updatedAt", readText⟩

/-- The record. -/
def record : Record ContactData where
  title := "ContactEventData"
  checks :=
    [idField.must, emailField.must, contactBookIdField.may, subscribedField.may,
     firstNameField.may, lastNameField.may, propertiesField.may, createdAtField.may,
     updatedAtField.may]
  mandatory := 2
  build := fun m => do
    let id ← idField.required m
    let email ← emailField.required m
    let contactBookId ← contactBookIdField.optional m
    let subscribed ← subscribedField.optional m
    let firstName ← firstNameField.optional m
    let lastName ← lastNameField.optional m
    let properties ← propertiesField.optional m
    let createdAt ← createdAtField.optional m
    let updatedAt ← updatedAtField.optional m
    return {
      id, email, contactBookId, subscribed, firstName, lastName, properties, createdAt,
      updatedAt }

/-- The members that say the data. -/
def toMembers (d : ContactData) : Object :=
  member "id" (.text d.id) ++ member "email" (.text d.email) ++
    member? "contactBookId" (d.contactBookId.map .text) ++
    member? "subscribed" (d.subscribed.map .boolean) ++
    member? "firstName" (d.firstName.map .text) ++ member? "lastName" (d.lastName.map .text) ++
    member? "properties" (d.properties.map .object) ++
    member? "createdAt" (d.createdAt.map .text) ++ member? "updatedAt" (d.updatedAt.map .text)

end ContactData

/-- What is told of a domain. -/
structure DomainData where
  /-- The domain. -/
  id : Int
  /-- Its name. -/
  name : String
  /-- Its status. -/
  status : String
  /-- Where it is served. -/
  region : Option String
  /-- When it was created. -/
  createdAt : Option String
  /-- When it was changed. -/
  updatedAt : Option String
  deriving DecidableEq, Repr

namespace DomainData

/-- The field `id`. -/
def idField : Field Int := ⟨"id", readInteger⟩

/-- The field `name`. -/
def nameField : Field String := ⟨"name", readText⟩

/-- The field `status`. -/
def statusField : Field String := ⟨"status", readText⟩

/-- The field `region`. -/
def regionField : Field String := ⟨"region", readText⟩

/-- The field `createdAt`. -/
def createdAtField : Field String := ⟨"createdAt", readText⟩

/-- The field `updatedAt`. -/
def updatedAtField : Field String := ⟨"updatedAt", readText⟩

/-- The record. -/
def record : Record DomainData where
  title := "DomainEventData"
  checks :=
    [idField.must, nameField.must, statusField.must, regionField.may, createdAtField.may,
     updatedAtField.may]
  mandatory := 3
  build := fun m => do
    let id ← idField.required m
    let name ← nameField.required m
    let status ← statusField.required m
    let region ← regionField.optional m
    let createdAt ← createdAtField.optional m
    let updatedAt ← updatedAtField.optional m
    return { id, name, status, region, createdAt, updatedAt }

/-- The members that say the data. -/
def toMembers (d : DomainData) : Object :=
  member "id" (ofInteger d.id) ++ member "name" (.text d.name) ++
    member "status" (.text d.status) ++ member? "region" (d.region.map .text) ++
    member? "createdAt" (d.createdAt.map .text) ++ member? "updatedAt" (d.updatedAt.map .text)

end DomainData

/-- What a test delivery holds. -/
structure TestData where
  /-- Whether it is a test. -/
  test : Option Bool
  /-- The webhook that is tested. -/
  webhookId : Option String
  /-- When it was sent. -/
  sentAt : Option String
  deriving DecidableEq, Repr

namespace TestData

/-- The field `test`. -/
def testField : Field Bool := ⟨"test", readFlag⟩

/-- The field `webhookId`. -/
def webhookIdField : Field String := ⟨"webhookId", readText⟩

/-- The field `sentAt`. -/
def sentAtField : Field String := ⟨"sentAt", readText⟩

/-- The record. -/
def record : Record TestData where
  title := "TestEventData"
  checks := [testField.may, webhookIdField.may, sentAtField.may]
  mandatory := 0
  build := fun m => do
    let test ← testField.optional m
    let webhookId ← webhookIdField.optional m
    let sentAt ← sentAtField.optional m
    return { test, webhookId, sentAt }

/-- The members that say the data. -/
def toMembers (d : TestData) : Object :=
  member? "test" (d.test.map .boolean) ++ member? "webhookId" (d.webhookId.map .text) ++
    member? "sentAt" (d.sentAt.map .text)

end TestData

end Event
end SignedHooks
