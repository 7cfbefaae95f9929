import Reckoner.Net.Host.Name
import Reckoner.Net.Host.Numeric

/-!
# Hosts

A host is a name, four octets, or groups in square brackets.
-/

namespace Reckoner.Net

open Host (beginsRuns isBracketed isFourOctets isName)

/-- A host that looks like four numbers has to be four octets, and one in brackets has to be groups.
Any other host is a name. -/
def isHost (host : List Char) : Bool :=
  -- The characters between the four numbers need not be points for a host to look like that.
  if beginsRuns 3 host then isFourOctets host
  else
    match host with
    | '[' :: rest => if rest.getLast? = some ']' then isBracketed rest.dropLast else isName host
    | _ => isName host

end Reckoner.Net
