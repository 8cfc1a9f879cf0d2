import Metastore.Files
import Metastore.Problem
import Metastore.Tls.Certificate
import Metastore.Value

/-!
# Encrypted connections

How the other side of an encrypted connection is verified: its chain of certificates and its name, against
the usual authorities or against those of a file. Only a connection that is declared insecure is not
verified.
-/

namespace Metastore

/-- What is verified of the other side. -/
structure TlsContext where
  /-- The chain of certificates has to lead to an authority. -/
  verifiesChain : Bool
  /-- The certificate has to be for the host that was asked for. -/
  checksHost : Bool
  /-- How many authorities were read from a file, if one was given. -/
  authorities : Option Nat
deriving DecidableEq, Repr

namespace TlsContext

/-- The certificates of a file of authorities, which has to have at least one. -/
def readAuthorities (files : Files) (path : String) : Except Problem (List Tls.Certificate) :=
  if path.contains '\x00' then .error .badValue
  else match files.read? path with
    | none => .error .missingFile
    | some bytes =>
      match Tls.Certificate.readAll? (bytes.toList.map fun b => Char.ofNat b.toNat) with
      | none | some [] => .error .badCertificate
      | some found => .ok found.eraseDups

/-- The number of authorities that a setting gives, if it gives any. -/
def authoritiesOf (files : Files) : Value → Except Problem (Option Nat)
  | .text path =>
    if path.isEmpty then .ok none
    else do return some (← readAuthorities files path).length
  | v => if v.truthy then .error .wrongType else .ok none

/-- The context of a connection. -/
def build (files : Files) (insecure : Bool) (caCerts : Value) : Except Problem TlsContext := do
  let authorities ← authoritiesOf files caCerts
  return { verifiesChain := !insecure, checksHost := !insecure, authorities }

end TlsContext
end Metastore
