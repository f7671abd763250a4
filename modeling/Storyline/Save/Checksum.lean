import Storyline.Digest
import Storyline.Json.Write

namespace Storyline.Save

def withoutChecksum (envelope : Entries Value) : Entries Value :=
  match envelope.get? "metadata" with
  | some (.record metadata) => envelope.put "metadata" (.record (Entries.erase metadata "checksum"))
  | _ => envelope

def checksum (envelope : Entries Value) : Except Json.WriteFault String :=
  (Json.writeCanonical (.record (withoutChecksum envelope))).map Digest.hex

end Storyline.Save
