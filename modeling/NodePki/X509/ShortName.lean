import NodePki.Der.Oid

/-!
# Short names of kinds

What stands before the value of an attribute in the text of a name. Eight kinds of attributes have
an abbreviation. Every other kind that one of the standards below names has its name there, even one
that is no kind of attribute: names of algorithms, of extensions and of values of messages.
-/

namespace NodePki.X509.ShortName

/-- The abbreviations of kinds of attributes. -/
def abbreviations : List (String × String) := [
  ("2.5.4.3", "CN"), ("2.5.4.6", "C"), ("2.5.4.8", "ST"), ("2.5.4.7", "L"), ("2.5.4.10", "O"),
  ("2.5.4.11", "OU"), ("0.9.2342.19200300.100.1.25", "DC"), ("1.2.840.113549.1.9.1", "Email")]

/-- Kinds of attributes. -/
def attributes : List (String × String) := [
  ("2.5.4", "x509"), ("2.5.4.0", "objectClass"), ("2.5.4.1", "aliasedEntryName"),
  ("2.5.4.2", "knowledgeInformation"), ("2.5.4.4", "surname"), ("2.5.4.5", "serialNumber"),
  ("2.5.4.9", "streetAddress"), ("2.5.4.12", "title"), ("2.5.4.13", "description"),
  ("2.5.4.14", "searchGuide"), ("2.5.4.15", "businessCategory"), ("2.5.4.16", "postalAddress"),
  ("2.5.4.17", "postalCode"), ("2.5.4.41", "name"), ("2.5.4.42", "givenName"),
  ("2.5.4.43", "initials"), ("2.5.4.44", "generationQualifier"), ("2.5.4.45", "uniqueIdentifier"),
  ("2.5.4.46", "dnQualifier"),
  ("1.3.6.1.4.1.311.60.2.1.1", "msJurisdictionLocality"),
  ("1.3.6.1.4.1.311.60.2.1.2", "msJurisdictionStateOrProvince"),
  ("1.3.6.1.4.1.311.60.2.1.3", "msJurisdictionCountry")]

/-- Extensions of certificates and of lists of revoked ones. -/
def extensions : List (String × String) := [
  ("2.5.29.9", "subjectDirectoryAttributes"), ("2.5.29.14", "subjectKeyIdentifier"),
  ("2.5.29.15", "keyUsage"), ("2.5.29.16", "privateKeyUsagePeriod"),
  ("2.5.29.17", "subjectAltName"), ("2.5.29.18", "issuerAltName"),
  ("2.5.29.19", "basicConstraints"), ("2.5.29.20", "crlNumber"), ("2.5.29.21", "reasonCode"),
  ("2.5.29.23", "holdInstructionCode"), ("2.5.29.24", "invalidityDate"),
  ("2.5.29.27", "deltaCRLIndicator"), ("2.5.29.28", "issuingDistributionPoint"),
  ("2.5.29.29", "certificateIssuer"), ("2.5.29.30", "nameConstraints"),
  ("2.5.29.31", "crlDistributionPoints"), ("2.5.29.32", "certificatePolicies"),
  ("2.5.29.33", "policyMappings"), ("2.5.29.35", "authorityKeyIdentifier"),
  ("2.5.29.36", "policyConstraints"), ("2.5.29.37", "extendedKeyUsage"),
  ("2.5.29.46", "freshestCRL"), ("2.5.29.54", "inhibitAnyPolicy"),
  ("1.3.6.1.5.5.7.1.1", "authorityInfoAccess"), ("1.3.6.1.5.5.7.1.11", "subjectInfoAccess"),
  ("1.3.6.1.4.1.11129.2.4.2", "ctSCTList"), ("2.16.840.1.113730.1.1", "nsCertType"),
  ("2.16.840.1.113730.1.13", "nsComment")]

/-- Keys, signatures and digests. -/
def algorithms : List (String × String) := [
  ("1.2.840.113549.1.1.1", "rsaEncryption"), ("1.2.840.113549.1.1.2", "md2WithRSAEncryption"),
  ("1.2.840.113549.1.1.3", "md4WithRSAEncryption"),
  ("1.2.840.113549.1.1.4", "md5WithRSAEncryption"),
  ("1.2.840.113549.1.1.5", "sha1WithRSAEncryption"), ("1.2.840.113549.1.1.8", "id-mgf1"),
  ("1.2.840.113549.1.1.10", "rsassa-pss"), ("1.2.840.113549.1.1.11", "sha256WithRSAEncryption"),
  ("1.2.840.113549.1.1.12", "sha384WithRSAEncryption"),
  ("1.2.840.113549.1.1.13", "sha512WithRSAEncryption"),
  ("1.2.840.113549.1.1.14", "sha224WithRSAEncryption"),
  ("1.2.840.10040.4.1", "dsa"), ("1.2.840.10040.4.3", "dsa-with-sha1"),
  ("1.2.840.10045.2.1", "id-ecPublicKey"), ("1.2.840.10045.3.1.7", "prime256v1"),
  ("1.3.132.0.34", "secp384r1"), ("1.3.132.0.35", "secp521r1"),
  ("1.2.840.10045.4.3.1", "ecdsa-with-SHA224"), ("1.2.840.10045.4.3.2", "ecdsa-with-SHA256"),
  ("1.2.840.10045.4.3.3", "ecdsa-with-SHA384"), ("1.2.840.10045.4.3.4", "ecdsa-with-SHA512"),
  ("1.3.101.112", "ed25519"), ("1.3.101.113", "ed448"),
  ("1.3.14.3.2.26", "id-SHA1"), ("1.3.14.3.2.29", "sha1-with-rsa-signature"),
  ("2.16.840.1.101.3.4.2.1", "sha256"), ("2.16.840.1.101.3.4.2.2", "sha384"),
  ("2.16.840.1.101.3.4.2.3", "sha512"), ("2.16.840.1.101.3.4.2.4", "sha224")]

/-- Signed and sealed messages, requests and key stores. -/
def messages : List (String × String) := [
  ("1.2.840.113549.1.7.1", "pkcs7-data"), ("1.2.840.113549.1.7.2", "pkcs7-signedData"),
  ("1.2.840.113549.1.7.3", "pkcs7-envelopedData"),
  ("1.2.840.113549.1.7.4", "pkcs7-signedAndEnvelopedData"),
  ("1.2.840.113549.1.7.5", "pkcs7-digestedData"), ("1.2.840.113549.1.7.6", "pkcs7-encryptedData"),
  ("1.2.840.113549.1.9.2", "unstructuredName"), ("1.2.840.113549.1.9.3", "contentType"),
  ("1.2.840.113549.1.9.4", "id-messageDigest"), ("1.2.840.113549.1.9.5", "signing-time"),
  ("1.2.840.113549.1.9.7", "challengePassword"), ("1.2.840.113549.1.9.14", "extensionRequest"),
  ("1.2.840.113549.1.9.15", "smimeCapabilities"), ("1.2.840.113549.1.9.20", "friendlyName")]

/-- All names of kinds, abbreviations first. -/
def all : List (String × String) :=
  abbreviations ++ attributes ++ extensions ++ algorithms ++ messages

/-- The short name of a kind, if it is written in its shortest form and has one. -/
def of? (oid : Oid) : Option String :=
  (all.find? fun n => Oid.ofDotted? n.1 = some oid).map (·.2)

end NodePki.X509.ShortName
