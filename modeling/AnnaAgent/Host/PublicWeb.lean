/-
The public web reader: which addresses it holds for public, and the loop that
follows redirects.

Name resolution, the transport and the cancelling signal are read once for each
hop; every hop may get other answers.  What the reader makes of the document it
has fetched is left out.
-/

import AnnaAgent.Foundation.Addresses

namespace AnnaAgent.Host

open Foundation

structure PublicWebAddress where
  address : String
  family : Nat

/-- `/^\d{1,3}$/u`. -/
def isOctet (part : List Char) : Bool :=
  !part.isEmpty && decide (part.length ≤ 3) && part.all Char.isDigit

def decimalNumber (part : List Char) : Nat :=
  part.foldl (fun value c => value * 10 + (c.toNat - 48)) 0

def isPublicIpv4 (address : String) : Bool :=
  let octets := address.toList.splitOn '.'
  if octets.length ≠ 4 || octets.any (fun octet => !isOctet octet) then false
  else
    match octets.map decimalNumber with
    | [a, b, c, d] =>
      if [a, b, c, d].any (fun value => decide (255 < value)) then false
      else
        !decide (a = 0
          ∨ a = 10
          ∨ (a = 100 ∧ 64 ≤ b ∧ b ≤ 127)
          ∨ a = 127
          ∨ (a = 169 ∧ b = 254)
          ∨ (a = 172 ∧ 16 ≤ b ∧ b ≤ 31)
          ∨ (a = 192 ∧ b = 0 ∧ c = 0)
          ∨ (a = 192 ∧ b = 0 ∧ c = 2)
          ∨ (a = 192 ∧ b = 88 ∧ c = 99)
          ∨ (a = 192 ∧ b = 168)
          ∨ (a = 198 ∧ 18 ≤ b ∧ b ≤ 19)
          ∨ (a = 198 ∧ b = 51 ∧ c = 100)
          ∨ (a = 203 ∧ b = 0 ∧ c = 113)
          ∨ 224 ≤ a)
    | _ => false

/-- `/^[0-9a-f]{1,4}$/iu`. -/
def isGroup (part : List Char) : Bool :=
  !part.isEmpty && decide (part.length ≤ 4) && part.all isHexDigit

/-- `half === "" ? [] : half.split(":")`. -/
def groupParts (half : List Char) : List (List Char) :=
  if half = [] then [] else half.splitOn ':'

def groupBytes (values : List Nat) : List Nat :=
  values.flatMap (fun value => [value >>> 8, value &&& 0xff])

def parseIpv6 (address : String) : Option (List Nat) :=
  if '%' ∈ address.toList ∨ '.' ∈ address.toList then none
  else
    let halves := splitPair ':' address.toList
    if 2 < halves.length then none
    else
      let left := groupParts (halves.headD [])
      let right := groupParts (halves[1]?.getD [])
      if (left ++ right).any (fun part => !isGroup part) then none
      else if halves.length = 1 ∧ left.length ≠ 8 then none
      else if halves.length = 2 ∧ 8 ≤ left.length + right.length then none
      else
        let groups := left ++ List.replicate (8 - left.length - right.length) ['0'] ++ right
        some (groupBytes (groups.map hexNumber))

def isPublicIpv6 (address : String) : Bool :=
  match parseIpv6 address with
  | none => false
  | some bytes =>
    let byte := fun index => bytes.getD index 0
    if byte 0 &&& 0xe0 ≠ 0x20 then false
    else if byte 0 = 0x20 ∧ byte 1 = 0x01 ∧ byte 2 < 0x02 then false
    else if byte 0 = 0x20 ∧ byte 1 = 0x01 ∧ byte 2 = 0x0d ∧ byte 3 = 0xb8 then false
    else if byte 0 = 0x20 ∧ byte 1 = 0x02 then false
    else if byte 0 = 0x3f ∧ byte 1 &&& 0xf0 = 0xf0 then false
    else true

/-- The parts of a parsed URL that the reader looks at. -/
structure Url where
  protocol : String
  username : String
  password : String
  port : String
  hostname : String

structure Platform where
  /-- `new URL(text)`. -/
  parseUrl : String → Option Url
  /-- `new URL(location, base).toString()`. -/
  resolveUrl : String → String → Option String
  isIP : String → Nat

variable (platform : Platform)

def isPublicWebAddress (address : PublicWebAddress) : Bool :=
  if address.family ≠ 4 ∧ address.family ≠ 6 then false
  else if platform.isIP address.address ≠ address.family then false
  else if address.family = 4 then isPublicIpv4 address.address
  else isPublicIpv6 address.address

/-- `hostname.replace(/^\[|\]$/g, "")`. -/
def withoutBrackets (hostname : String) : String :=
  let opened := if hostname.toList.head? = some '[' then hostname.toList.tail else hostname.toList
  String.ofList (if opened.getLast? = some ']' then opened.dropLast else opened)

def parseAddressLiteral (hostname : String) : Option PublicWebAddress :=
  let address := withoutBrackets hostname
  let family := platform.isIP address
  if family = 4 ∨ family = 6 then some ⟨address, family⟩ else none

def parsePublicUrl (rawUrl : String) : Option Url :=
  match platform.parseUrl rawUrl with
  | none => none
  | some url =>
    if (url.protocol ≠ "http:" ∧ url.protocol ≠ "https:")
        ∨ url.username ≠ "" ∨ url.password ≠ ""
        ∨ (url.port ≠ "" ∧ url.port ≠ (if url.protocol = "http:" then "80" else "443")) then none
    else some url

structure TransportResponse where
  status : Nat
  location : Option String

/-- Where the reader looks at the signal. -/
inductive Checkpoint where
  | lookupFailed
  | validated
  | transportFailed
  | responded
  deriving DecidableEq

/-- What happens at each hop.  No answer stands for a failure, a time-out or a
cancellation. -/
structure Answers where
  dnsLookup : Nat → String → Option (List PublicWebAddress)
  transport : Nat → String → PublicWebAddress → Option TransportResponse
  aborted : Nat → Checkpoint → Bool

structure TransportCall where
  hop : Nat
  url : String
  address : PublicWebAddress

inductive ReadOutcome where
  | failed (reason : String) (status : Option Nat)
  | fetched (url : String) (status : Nat)
  deriving DecidableEq

def fail (reason : String) : ReadOutcome := .failed reason none

/-- The checks right after the loop. -/
def afterLoop (url : String) : Option TransportResponse → ReadOutcome
  | none => fail "web_read_network_unavailable"
  | some response =>
    if response.status < 200 ∨ 300 ≤ response.status then
      .failed "web_read_http_error" (some response.status)
    else .fetched url response.status

def hopAddresses (answers : Answers) (hop : Nat) (url : Url) : Option (List PublicWebAddress) :=
  match parseAddressLiteral platform url.hostname with
  | some literal => some [literal]
  | none => answers.dnsLookup hop url.hostname

inductive HopResult where
  | ended (outcome : ReadOutcome)
  | calls (address : PublicWebAddress)

/-- One hop up to its transport call. -/
def beforeCall (answers : Answers) (hop : Nat) (currentUrl : String) : HopResult :=
  match parsePublicUrl platform currentUrl with
  | none => .ended (fail "web_read_destination_not_public")
  | some url =>
    match hopAddresses platform answers hop url with
    | none =>
      .ended (fail (if answers.aborted hop .lookupFailed then "cancelled"
        else "web_read_dns_unavailable"))
    | some addresses =>
      if addresses.any (fun candidate => !isPublicWebAddress platform candidate) then
        .ended (fail "web_read_destination_not_public")
      else
        match addresses with
        | [] => .ended (fail "web_read_destination_not_public")
        | selected :: _ =>
          if answers.aborted hop .validated then .ended (fail "cancelled")
          else .calls selected

def afterCall (answers : Answers) (hop maxRedirects : Nat) (currentUrl : String)
    (response : Option TransportResponse) : ReadOutcome ⊕ String :=
  match response with
  | none =>
    .inl (fail (if answers.aborted hop .transportFailed then "cancelled"
      else "web_read_network_unavailable"))
  | some response =>
    if answers.aborted hop .responded then .inl (fail "cancelled")
    else if response.status < 300 ∨ 400 ≤ response.status then
      .inl (afterLoop currentUrl (some response))
    else
      match response.location with
      | none => .inl (fail "web_read_redirect_limit")
      | some location =>
        if hop = maxRedirects then .inl (fail "web_read_redirect_limit")
        else
          match platform.resolveUrl location currentUrl with
          | none => .inl (fail "web_read_invalid_redirect")
          | some next => .inr next

/-- The loop from `redirectCount = hop` on, with `remaining` passes left. -/
def readHops (answers : Answers) (maxRedirects : Nat) :
    Nat → Nat → String → List TransportCall × ReadOutcome
  | 0, _, _ => ([], fail "web_read_network_unavailable")
  | remaining + 1, hop, currentUrl =>
    match beforeCall platform answers hop currentUrl with
    | .ended outcome => ([], outcome)
    | .calls address =>
      let call : TransportCall := ⟨hop, currentUrl, address⟩
      match afterCall platform answers hop maxRedirects currentUrl
          (answers.transport hop currentUrl address) with
      | .inl outcome => ([call], outcome)
      | .inr next =>
        let later := readHops answers maxRedirects remaining (hop + 1) next
        (call :: later.1, later.2)

def publicWebRead (answers : Answers) (maxRedirects : Nat) (url : String) :
    List TransportCall × ReadOutcome :=
  readHops platform answers maxRedirects (maxRedirects + 1) 0 url

end AnnaAgent.Host
