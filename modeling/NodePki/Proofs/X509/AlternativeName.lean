import NodePki.Proofs.San.Writer
import NodePki.Proofs.X509.Element
import NodePki.Text.Utf8.Lemmas
import NodePki.X509.AlternativeName

/-!
# Reading written names leniently

The lenient reader makes of written names one entry each, in their order (`ofExtension?_octets`).
-/

namespace NodePki

open Der (tlv tlvs)

namespace X509.AlternativeName

/-- The entry that stands for a name. -/
def ofGeneralName : GeneralName → AlternativeName
  | .otherName n => .otherName n.oid (tlv otherNameTag (tlv .utf8String (Utf8.encode n.value)))
  | .dnsName name => .dnsName name
  | .ipAddress ip => .ipAddress ip.octets

theorem ofElement?_otherName (oid : Oid) (value : Bytes)
    (h : (tlv .objectIdentifier oid.content).length < UInt64.size) :
    ofElement? (.ofTag otherNameTag (tlv .objectIdentifier oid.content ++ value)) =
      some (.otherName oid value) := by
  have hcls : (Element.ofTag otherNameTag (tlv .objectIdentifier oid.content ++ value)).cls =
    Element.contextClass := rfl
  have hnumber : (Element.ofTag otherNameTag (tlv .objectIdentifier oid.content ++ value)).number =
    0 := rfl
  have hread := Element.takes_objectIdentifier oid.content h value
  simp only [ofElement?, hcls, hnumber, Element.content_ofTag, hread]
  rfl

theorem ofElement?_dnsName (name : String) :
    ofElement? (.ofTag dnsNameTag (Utf8.encode name)) = some (.dnsName name) := by
  have hcls : (Element.ofTag dnsNameTag (Utf8.encode name)).cls = Element.contextClass := rfl
  have hnumber : (Element.ofTag dnsNameTag (Utf8.encode name)).number = 2 := rfl
  simp only [ofElement?, hcls, hnumber, Element.content_ofTag, Utf8.decode?_encode]
  rfl

theorem ofElement?_ipAddress (octets : Bytes) :
    ofElement? (.ofTag ipAddressTag octets) = some (.ipAddress octets) := by
  have hcls : (Element.ofTag ipAddressTag octets).cls = Element.contextClass := rfl
  have hnumber : (Element.ofTag ipAddressTag octets).number = 7 := rfl
  simp only [ofElement?, hcls, hnumber, Element.content_ofTag]
  rfl

theorem takes_generalName (g : GeneralName) :
    Takes read (tlv g.value.1 g.value.2) (ofGeneralName g) := by
  intro hlt
  have helement : ofElement? (.ofTag g.value.1 g.value.2) = some (ofGeneralName g) := by
    have hcontent : g.value.2.length < UInt64.size := Element.length_lt_of_tlvOf hlt
    cases g with
    | otherName n =>
      have hparts : n.body.length < UInt64.size := hcontent
      rw [n.length_body] at hparts
      exact ofElement?_otherName n.oid _ (Nat.lt_of_add_right_lt hparts)
    | dnsName name => exact ofElement?_dnsName name
    | ipAddress ip => exact ofElement?_ipAddress ip.octets
  refine (Element.takes_tlv g.value.1 g.value.2).bind_nil (fun _ rest => ?_) hlt
  exact congrArg (Option.map (·, rest)) helement

theorem ofExtension?_octets {names : List GeneralName}
    (h : (GeneralName.octets names).length < UInt64.size) :
    ofExtension? (GeneralName.octets names) = some (names.map ofGeneralName) := by
  have hexpect : Element.expect Element.sequenceNumber (GeneralName.octets names ++ []) =
      some (.ofTag .sequence (tlvs (names.map GeneralName.value)), []) :=
    Element.takes_expect (b := Der.Tag.sequence.octet) rfl (by decide) _ h []
  have hbody : tlvs (names.map GeneralName.value) =
      names.flatMap fun g => tlv g.value.1 g.value.2 := List.flatMap_map ..
  have hall : Reader.all? read (names.flatMap fun g => tlv g.value.1 g.value.2) =
      some (names.map ofGeneralName) := by
    refine all?_flatMap rfl (fun g _ => takes_generalName g) ?_
    rw [← hbody]
    exact Element.length_lt_of_tlvOf h
  rw [List.append_nil] at hexpect
  rw [ofExtension?, hexpect, hbody]
  exact hall

end X509.AlternativeName

end NodePki
