import CardLink.Card.Commands

/-!
# Requests to a handle

Everything that can be asked of a card handle, as one type. A run of a handle is a list of requests,
each performed on the handle that the one before it left behind.
-/

namespace CardLink

/-- What can be asked of a card handle. -/
inductive Request where
  | startFirst (keyNo : UInt8)
  | finishFirst (key : AesKey) (draw : NonceSource)
  | authenticate (keyNo : UInt8) (key : AesKey) (draw : NonceSource)
  | reauthenticate (keyNo : UInt8) (key : AesKey) (draw : NonceSource)
  | authenticateLegacy (keyNo : UInt8) (key : TripleDesKey) (draw : NonceSource)
  | issue (cmd : Command)
  | select (aid : Aid)
  | applicationIds
  | version
  | uid
  | keySettings
  | replaceKeySettings (settings : UInt8)
  | keyVersion (keyNo : UInt8)
  | updateKey (u : KeyUpdate) (keySet : Option UInt8)
  | readRange (file : UInt8) (offset length : Nat) (mode : CommMode)
  | writeRange (file : UInt8) (offset : Nat) (data : Bytes) (mode : CommMode)
  | commit
  | format
  | configure (option : UInt8) (data : Bytes)

/-- What a request gives when it succeeds. -/
inductive Outcome where
  | done
  | bytes (data : Bytes)
  | applications (aids : List Aid)
  | version (v : Version)
  | keySettings (s : KeySettings)
  | keyVersion (v : UInt8)
  deriving DecidableEq

namespace Card

/-- An operation without a result, as a request sees it. -/
def done (a : Action Card Unit) : Action Card Outcome := do
  a
  return .done

/-- Performs a request. -/
def perform : Request → Action Card Outcome
  | .startFirst keyNo => done (startFirst keyNo)
  | .finishFirst key draw => done (finishFirst key draw)
  | .authenticate keyNo key draw => done (authenticate keyNo key draw)
  | .reauthenticate keyNo key draw => done (reauthenticate keyNo key draw)
  | .authenticateLegacy keyNo key draw => done (authenticateLegacy keyNo key draw)
  | .issue cmd => .bytes <$> issue cmd
  | .select aid => done (select aid)
  | .applicationIds => .applications <$> applicationIds
  | .version => .version <$> version
  | .uid => (fun uid => .bytes uid.toList) <$> uid
  | .keySettings => .keySettings <$> keySettings
  | .replaceKeySettings settings => done (replaceKeySettings settings)
  | .keyVersion keyNo => .keyVersion <$> keyVersion keyNo
  | .updateKey u keySet => done (updateKey u keySet)
  | .readRange file offset length mode => .bytes <$> readRange file offset length mode
  | .writeRange file offset data mode => done (writeRange file offset data mode)
  | .commit => done commit
  | .format => done format
  | .configure option data => done (configure option data)

/-- Performs a list of requests one after the other, whether or not they succeed. -/
def performAll : List Request → Card → Dialogue (List (Except Error Outcome) × Card)
  | [], c => .done ([], c)
  | r :: rs, c => do
    let (outcome, c') ← (perform r).start c
    let (outcomes, c'') ← performAll rs c'
    return (outcome :: outcomes, c'')

end Card

end CardLink
