import EnergyNode.Db

/-! Verification of the wallet's swap tokens. The JWT library is a parameter;
the claims it returns are checked here against the bid being accepted. -/
namespace EnergyNode

/-- The JWT library: unverified header and claims, the import of an EC key, and
`decode` with signature, issuer and required claims checked at an instant. The
error of `decode` is the reason this module derives from its exception. -/
structure Jwt where
  header : String → Option Fields
  unverified : String → Option Fields
  importable : Json → Bool
  decode : Json → Instant → String → Except String Fields

/-- What `_fetch_jwks` obtained. -/
inductive Jwks where
  | unavailable
  | invalid
  | keys (items : List Json)

namespace SwapTokens

def keyForKid (jwt : Jwt) (kid : String) : List Json → Except String Json
  | [] => .error "SWAP_TOKEN_UNKNOWN_KID"
  | item :: rest =>
      match item with
      | .obj fields =>
          if (Fields.get fields "kid").text? ≠ some kid then keyForKid jwt kid rest
          else if (Fields.get fields "kty").text? = some "EC" ∧
              (Fields.get fields "crv").text? = some "P-256" ∧ jwt.importable item then .ok item
          else .error "SWAP_TOKEN_KEY_INVALID"
      | _ => keyForKid jwt kid rest

structure Leg where
  asset : Asset
  amount : ℚ
deriving DecidableEq

def assetOf : Json → Option Asset
  | .str "CR" => some .cr
  | .str "KWH" => some .kwh
  | _ => none

/-- `_claim_amount`: a supported asset and a positive amount. -/
def claimAmount (claims : Fields) (name reason : String) : Except String Leg :=
  match claims.get name with
  | .obj leg =>
      match assetOf (Fields.get leg "asset"), Decimal.number (Fields.get leg "amount") with
      | some asset, some amount => if 0 < amount then .ok ⟨asset,amount⟩ else .error reason
      | _, _ => .error reason
  | _ => .error reason

/-- What the buyer expects the token to promise. -/
structure Expected where
  swapId : Option String
  proposer : String
  give : Leg
  take : Leg
  memo : String
deriving DecidableEq

/-- The reasons are stable: they end in the audit. -/
def verifySwapToken (jwt : Jwt) (jwks : Jwks) (token : Json) (expected : Expected)
    (now : Instant) : Except String Fields := do
  let .str token := token | throw "SWAP_TOKEN_MISSING"
  if token.toList.all Char.isWhitespace then throw "SWAP_TOKEN_MISSING"
  let some header := jwt.header token | throw "SWAP_TOKEN_MALFORMED"
  unless (Fields.get header "alg").text? = some "ES256" do throw "SWAP_TOKEN_ALGORITHM"
  let some kid := ((Fields.get header "kid").text?).filter (· ≠ "")
    | throw "SWAP_TOKEN_UNKNOWN_KID"
  let key ← match jwks with
    | .unavailable => throw "SWAP_TOKEN_JWKS_UNAVAILABLE"
    | .invalid => throw "SWAP_TOKEN_JWKS_INVALID"
    | .keys items => keyForKid jwt kid items
  let claims ← jwt.decode key now token
  let some exp := (Fields.get claims "exp").int? | throw "SWAP_TOKEN_EXPIRED"
  if seconds exp ≤ now then throw "SWAP_TOKEN_EXPIRED"
  unless (Fields.get claims "sub").text? = expected.swapId do throw "SWAP_TOKEN_SUB_MISMATCH"
  unless (Fields.get claims "proposer").text? = some expected.proposer do
    throw "SWAP_TOKEN_PROPOSER_MISMATCH"
  let give ← claimAmount claims "give" "SWAP_TOKEN_GIVE_INVALID"
  unless give = expected.give do throw "SWAP_TOKEN_GIVE_MISMATCH"
  let take ← claimAmount claims "take" "SWAP_TOKEN_TAKE_INVALID"
  unless take = expected.take do throw "SWAP_TOKEN_TAKE_MISMATCH"
  unless (Fields.get claims "memo").text? = some expected.memo do
    throw "SWAP_TOKEN_MEMO_MISMATCH"
  return claims

/-- RETRYABLE_TOKEN_REASONS. -/
def retryable (reason : String) : Bool :=
  reason = "SWAP_TOKEN_JWKS_UNAVAILABLE" || reason = "SWAP_TOKEN_JWKS_NOT_CONFIGURED"

end SwapTokens

end EnergyNode
