import CardFile.Card.Decode

/-!
What a card takes from a property is its name and its texts. The octets that a text came in, and
the group of a property, make no difference.
-/
namespace CardFile

def Attribute.plain (a : Attribute) : Attribute :=
  { name := a.name, value := a.text?.map .text }

/-- A property with its texts out of their transfer encodings. -/
def Property.plain (p : Property) : Property where
  name := p.name
  value := p.text?.map .text
  attributes := p.attributes.map Attribute.plain

private theorem plain_value (v? : Option Value) :
    (v?.map Value.toText |>.map .text).map Value.toText = v?.map Value.toText := by
  cases v? <;> rfl

@[simp] theorem Attribute.plain_text? (a : Attribute) : a.plain.text? = a.text? :=
  plain_value a.value

namespace Property

@[simp] theorem plain_text? (p : Property) : p.plain.text? = p.text? :=
  plain_value p.value

@[simp] theorem plain_textOrEmpty (p : Property) : p.plain.textOrEmpty = p.textOrEmpty := by
  simp [textOrEmpty]

@[simp] theorem plain_componentText? (p : Property) (name : String) :
    p.plain.componentText? name = p.componentText? name := by
  simp only [componentText?, attribute?, plain, List.find?_map, Option.map_map]
  congr 1
  funext a
  simp [Attribute.textOrEmpty]

@[simp] theorem plain_truth? (p : Property) : p.plain.truth? = p.truth? := by
  simp [truth?]

@[simp] theorem plain_date? (p : Property) : p.plain.date? = p.date? := by
  simp [date?]

end Property

private theorem FlagSet.bitsOf_plain (table : FlagTable) (a : Attribute) :
    bitsOf table a.plain = bitsOf table a := by
  rw [bitsOf, bitsOf, Attribute.plain_text?]
  rfl

theorem FlagSet.ofAttributes_plain (table : FlagTable) (attributes : List Attribute) :
    (ofAttributes (attributes.map Attribute.plain) : FlagSet table) = ofAttributes attributes := by
  simp only [ofAttributes, List.flatMap_map, bitsOf_plain]

theorem Arbitrary.ofProperty_plain (p : Property) : ofProperty p.plain = ofProperty p := by
  have same (entry : Arbitrary) (a : Attribute) :
      entry.takeAttribute a.plain = entry.takeAttribute a := by
    rw [takeAttribute, takeAttribute, Attribute.textOrEmpty, Attribute.plain_text?]
    rfl
  have attributes : p.plain.attributes = p.attributes.map Attribute.plain := rfl
  simp only [ofProperty, Property.plain_textOrEmpty, attributes, List.foldl_map, same]

namespace Card

private theorem put_plain (c : Card) (field : Field) (p : Property) :
    c.put field p.plain = c.put field p := by
  have attributes : p.plain.attributes = p.attributes.map Attribute.plain := rfl
  have name : Name.ofProperty p.plain = .ofProperty p := by simp [Name.ofProperty]
  have address : Address.ofProperty p.plain = .ofProperty p := by
    simp [Address.ofProperty, attributes, FlagSet.ofAttributes_plain]
  cases field <;> simp [put, attributes, name, address, FlagSet.ofAttributes_plain,
    Arbitrary.ofProperty_plain]

theorem take_plain (c : Card) (p : Property) : c.take p.plain = c.take p := by
  have name : p.plain.name = p.name := rfl
  simp only [take, name, put_plain]

theorem take_congr (c : Card) (p q : Property) (same : p.plain = q.plain) :
    c.take p = c.take q := by
  rw [← take_plain c p, same, take_plain]

end Card

end CardFile
