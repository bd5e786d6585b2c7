import CardFile.Card.Basic
import CardFile.Json.Member
import CardFile.Json.Reader
import CardFile.Json.Writer
import CardFile.Score.Json

/-!
Cards as JSON. Every field has a member, absent ones with the value null. Flags are written in their
text form, dates as three numbers.
-/
namespace CardFile

open Json (Member Fault)

def Name.members : List (Member Name) := [
  .text "prefix" honorific fun v n => { n with honorific := v },
  .text "given" given fun v n => { n with given := v },
  .text "additional" additional fun v n => { n with additional := v },
  .text "family" family fun v n => { n with family := v },
  .text "suffix" suffix fun v n => { n with suffix := v }]

def Name.toJson (n : Name) : Json :=
  .ofMembers members n

def Name.ofJson (j : Json) : Except Fault Name :=
  j.asMembers members {}

def Date.members : List (Member Date) := [
  .field "year" .ofInt Json.asInt32 year fun v d => { d with year := v },
  .field "month" .ofInt Json.asInt32 month fun v d => { d with month := v },
  .field "day" .ofInt Json.asInt32 day fun v d => { d with day := v }]

def Date.toJson (d : Date) : Json :=
  .ofMembers members d

def Date.ofJson (j : Json) : Except Fault Date :=
  j.asMembers members ⟨0, 0, 0⟩

def FlagSet.toJson {table : FlagTable} (f : FlagSet table) : Json :=
  .string f.toText

def FlagSet.ofJson {table : FlagTable} (j : Json) : Except Fault (FlagSet table) := do
  match ofText? (← j.asString) with
  | some f => .ok f
  | none => .error .mismatch

def Address.members : List (Member Address) := [
  .text "po" po fun v a => { a with po := v },
  .text "ext" ext fun v a => { a with ext := v },
  .text "street" street fun v a => { a with street := v },
  .text "city" city fun v a => { a with city := v },
  .text "region" region fun v a => { a with region := v },
  .text "code" code fun v a => { a with code := v },
  .text "country" country fun v a => { a with country := v },
  .field "flags" FlagSet.toJson FlagSet.ofJson flags fun v a => { a with flags := v }]

def Address.toJson (a : Address) : Json :=
  .ofMembers members a

def Address.ofJson (j : Json) : Except Fault Address :=
  j.asMembers members {}

def AddressLabel.members : List (Member AddressLabel) := [
  .field "flags" FlagSet.toJson FlagSet.ofJson flags fun v l => { l with flags := v },
  .field "text" .string Json.asString text fun v l => { l with text := v }]

def AddressLabel.toJson (l : AddressLabel) : Json :=
  .ofMembers members l

def AddressLabel.ofJson (j : Json) : Except Fault AddressLabel :=
  j.asMembers members ⟨.empty, ""⟩

def Phone.members : List (Member Phone) := [
  .field "flags" FlagSet.toJson FlagSet.ofJson flags fun v p => { p with flags := v },
  .field "number" .string Json.asString number fun v p => { p with number := v }]

def Phone.toJson (p : Phone) : Json :=
  .ofMembers members p

def Phone.ofJson (j : Json) : Except Fault Phone :=
  j.asMembers members ⟨.empty, ""⟩

def Arbitrary.members : List (Member Arbitrary) := [
  .text "key" key fun v a => { a with key := v },
  .text "type" valueType fun v a => { a with valueType := v },
  .text "value" value fun v a => { a with value := v }]

def Arbitrary.toJson (a : Arbitrary) : Json :=
  .ofMembers members a

def Arbitrary.ofJson (j : Json) : Except Fault Arbitrary :=
  j.asMembers members {}

namespace Card

def listMember {β : Type} (name : String) (write : β → Json) (read : Json → Except Fault β)
    (get : Card → List β) (set : List β → Card → Card) : Member Card :=
  .field name (.ofList write) (Json.asList read) get set

def members : List (Member Card) := [
  .field "id" .string Json.asString id fun v c => { c with id := v },
  .text "file_as" fileAs fun v c => { c with fileAs := v },
  .text "full_name" fullName fun v c => { c with fullName := v },
  .optional "name" Name.toJson Name.ofJson name fun v c => { c with name := v },
  listMember "addresses" Address.toJson Address.ofJson addresses
    fun v c => { c with addresses := v },
  listMember "address_labels" AddressLabel.toJson AddressLabel.ofJson addressLabels
    fun v c => { c with addressLabels := v },
  listMember "phones" Phone.toJson Phone.ofJson phones fun v c => { c with phones := v },
  listMember "emails" .string Json.asString emails fun v c => { c with emails := v },
  .optional "birth_date" Date.toJson Date.ofJson birthDate fun v c => { c with birthDate := v },
  .text "url" url fun v c => { c with url := v },
  .text "org" org fun v c => { c with org := v },
  .text "org_unit" orgUnit fun v c => { c with orgUnit := v },
  .text "office" office fun v c => { c with office := v },
  .text "title" title fun v c => { c with title := v },
  .text "role" role fun v c => { c with role := v },
  .text "manager" manager fun v c => { c with manager := v },
  .text "assistant" assistant fun v c => { c with assistant := v },
  .text "nickname" nickname fun v c => { c with nickname := v },
  .text "spouse" spouse fun v c => { c with spouse := v },
  .optional "anniversary" Date.toJson Date.ofJson anniversary
    fun v c => { c with anniversary := v },
  .text "mailer" mailer fun v c => { c with mailer := v },
  .text "fburl" freeBusyUrl fun v c => { c with freeBusyUrl := v },
  .text "note" note fun v c => { c with note := v },
  .text "related_contacts" relatedContacts fun v c => { c with relatedContacts := v },
  .optional "categories" (.ofList .string) (Json.asList Json.asString) categories
    fun v c => { c with categories := v },
  listMember "arbitrary" Arbitrary.toJson Arbitrary.ofJson arbitrary
    fun v c => { c with arbitrary := v },
  .optional "last_use" Date.toJson Date.ofJson lastUse fun v c => { c with lastUse := v },
  .field "raw_use_score" Score.toJson Json.asScore useScore fun v c => { c with useScore := v },
  .optional "wants_html" .bool Json.asBool wantsHtml fun v c => { c with wantsHtml := v },
  .field "is_mailing_list" .bool Json.asBool isMailingList
    fun v c => { c with isMailingList := v },
  .field "list_show_addresses" .bool Json.asBool listShowAddresses
    fun v c => { c with listShowAddresses := v }]

def toJson (c : Card) : Json :=
  .ofMembers members c

def ofJson (j : Json) : Except Fault Card :=
  j.asMembers members {}

def readText {α : Type} (read : Json → Except Fault α) (text : String) : Except Fault α := do
  let (j, ended) := Json.read text
  let a ← read j
  if ended then .ok a else .error .malformed

def ofJsonText (text : String) : Except Fault Card :=
  readText ofJson text

def listOfJsonText (text : String) : Except Fault (List Card) :=
  readText (Json.asList ofJson) text

end Card

end CardFile
