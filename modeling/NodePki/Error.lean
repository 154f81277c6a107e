import NodePki.Der.Oid
import NodePki.Kube.Failure
import NodePki.Time.Duration

/-!
# Errors

What can go wrong between a node's identity and its stored certificate, as causes of five kinds.
Only a failure of the store can pass by itself (`isRetryable`). A lost race for a name is no error.
-/

namespace NodePki

/-- The parts of an identity that cannot be empty. -/
inductive IdentityField
  | podName
  | clusterName
  | namespaceName
  deriving DecidableEq, Repr

/-- The name of a field in messages. -/
def IdentityField.name : IdentityField → String
  | podName => "pod name"
  | clusterName => "cluster name"
  | namespaceName => "namespace"

/-- Where an address comes from. -/
inductive AddressSource
  | pod
  | service (name : String)
  deriving DecidableEq, Repr

/-- The name of a source in messages. -/
def AddressSource.name : AddressSource → String
  | pod => "pod IP"
  | service name => s!"cluster IP of service {name}"

/-- What is wrong with the identity of a node. -/
inductive IdentityFault
  | podUnnamed
  | podWithoutAddress (pod : String)
  | serviceUnnamed
  | empty (field : IdentityField)
  | dnsName (name : String)
  | address (source : AddressSource) (text : String)
  | validity (span : Duration)
  | certificateType (text : String)
  | dnsNameNotIa5 (name : String)
  | noGeneralNames
  | other (text : String)
  deriving DecidableEq, Repr

/-- The wording of a fault. -/
def IdentityFault.message : IdentityFault → String
  | podUnnamed => "pod has no name"
  | podWithoutAddress pod => s!"pod {pod} has no IP assigned yet"
  | serviceUnnamed => "service has no name"
  | empty field => s!"{field.name} is empty"
  | dnsName name => s!"DNS name {Quoted.quote name} must be non-empty ASCII"
  | address source text => s!"{source.name} {Quoted.quote text} is not an IP address"
  | validity span => s!"validity of {span} is out of range"
  | certificateType text => s!"certificate type {Quoted.quote text} is not a valid label value"
  | dnsNameNotIa5 name => s!"DNS name {Quoted.quote name} is not a non-empty IA5String"
  | noGeneralNames => "GeneralNames must contain at least one entry"
  | other text => text

/-- What is wrong with the octets of a certificate. -/
inductive ParseFault
  | der (cause : Der.Error)
  | trailingAfterOtherName (oid : Oid)
  | otherNameTag (oid : Oid) (tag : Der.Tag)
  | subjectAltNameTag (tag : Der.Tag)
  | certificate
  | subjectAltName
  | pem
  | addressOctets (count : Nat)
  | other (text : String)
  deriving DecidableEq, Repr

/-- The wording of a fault. -/
def ParseFault.message : ParseFault → String
  | der cause => cause.message
  | trailingAfterOtherName oid => s!"trailing data after otherName value for {oid}"
  | otherNameTag oid tag => s!"otherName {oid} value has tag {tag.name}, expected [0] EXPLICIT"
  | subjectAltNameTag tag => s!"SubjectAltName has tag {tag.name}, expected SEQUENCE"
  | certificate => "invalid certificate"
  | subjectAltName => "invalid SubjectAltName"
  | pem => "invalid PEM"
  | addressOctets count => s!"IP address SAN has {count} octets"
  | other text => text

/-- Why a certificate could not be signed. -/
inductive SigningFault
  | noPublicKey
  | validity (span : Duration)
  | time
  | keyPem
  | key
  | certificatePem
  | certificate
  | signature
  | other (text : String)
  deriving DecidableEq, Repr

/-- The wording of a fault. -/
def SigningFault.message : SigningFault → String
  | noPublicKey => "certificate request carries no public key"
  | validity span => s!"CA validity of {span} is out of range"
  | time => "Time error"
  | keyPem => "key is not a PEM document"
  | key => "Could not parse key pair"
  | certificatePem => "CA certificate is not a PEM document"
  | certificate => "Could not parse CA certificate"
  | signature => "no signature could be made"
  | other text => text

/-- Why the store of secrets did not give what was asked for. -/
inductive StoreFault
  | get (ns name : String) (cause : Kube.Failure)
  | create (ns name : String) (cause : Kube.Failure)
  | unnamed
  | noEntry (name key : String)
  | notUtf8 (name key : String) (cause : Utf8.Error)
  | unreadable (ns name : String)
  | typeMismatch (name found expected : String)
  | incomplete (name keyEntry certificateEntry : String)
  | api (cause : Kube.Failure)
  | other (text : String)
  deriving DecidableEq, Repr

/-- The wording of a fault. -/
def StoreFault.message : StoreFault → String
  | get ns name cause => s!"failed to get secret {ns}/{name}: {cause.message}"
  | create ns name cause => s!"failed to create secret {ns}/{name}: {cause.message}"
  | unnamed => "secret has no name"
  | noEntry name key => s!"secret {name} has no {key} entry"
  | notUtf8 name key cause => s!"secret {name} entry {key} is not UTF-8: {cause.message}"
  | unreadable ns name => s!"secret {ns}/{name} reported as existing but could not be read"
  | typeMismatch name found expected =>
    s!"secret {name} holds certificate type {Quoted.quote found}, " ++
      s!"expected {Quoted.quote expected}"
  | incomplete name keyEntry certificateEntry =>
    s!"secret {name} must hold both {keyEntry} and {certificateEntry}"
  | api cause => cause.message
  | other text => text

/-- Why an object cannot own a secret. -/
inductive OwnerFault
  | unidentified (secret : String)
  | other (text : String)
  deriving DecidableEq, Repr

/-- The wording of a fault. -/
def OwnerFault.message : OwnerFault → String
  | unidentified secret => s!"owner of secret {secret} must have a name and a uid"
  | other text => text

/-- The kinds of errors. -/
inductive ErrorKind
  | invalidIdentity
  | parse
  | signing
  | store
  | invalidOwner
  deriving DecidableEq, Repr

/-- An error, by its kind and cause. -/
inductive Error
  /-- The identity of a node cannot go into a certificate. -/
  | invalidIdentity (fault : IdentityFault)
  /-- Octets are no certificate. -/
  | parse (fault : ParseFault)
  /-- The authority could not sign. -/
  | signing (fault : SigningFault)
  /-- The store failed, other than by the absence or presence of a secret. -/
  | store (fault : StoreFault)
  /-- An object cannot own a secret. -/
  | invalidOwner (fault : OwnerFault)
  deriving DecidableEq, Repr

namespace Error

/-- The kind of an error. -/
def kind : Error → ErrorKind
  | invalidIdentity _ => .invalidIdentity
  | parse _ => .parse
  | signing _ => .signing
  | store _ => .store
  | invalidOwner _ => .invalidOwner

/-- The error of a kind that has only a text. -/
def ofText (kind : ErrorKind) (text : String) : Error :=
  match kind with
  | .invalidIdentity => invalidIdentity (.other text)
  | .parse => parse (.other text)
  | .signing => signing (.other text)
  | .store => store (.other text)
  | .invalidOwner => invalidOwner (.other text)

/-- The wording of an error. -/
def message : Error → String
  | invalidIdentity fault => s!"invalid node identity: {fault.message}"
  | parse fault => s!"failed to parse certificate data: {fault.message}"
  | signing fault => s!"failed to sign certificate: {fault.message}"
  | store fault => s!"secret store operation failed: {fault.message}"
  | invalidOwner fault => s!"invalid owner reference: {fault.message}"

/-- Whether the same call can succeed later with the same inputs. -/
def isRetryable : Error → Bool
  | store _ => true
  | _ => false

instance : ToString Error := ⟨message⟩

/-- A refusal of the strict DER reader or writer. -/
def der (e : Der.Error) : Error := parse (.der e)

end Error

end NodePki
