import ChatGateway.Text.Blank
import ChatGateway.Text.Ascii
import ChatGateway.Text.Split
import ChatGateway.Failure

/-!
The ids of recipients. A bare phone number stands for a person, and numbers joined by dashes stand
for a group; an id that names its server is taken as it is.
-/

namespace ChatGateway.Outbound

def isNumber (cs : List Char) : Bool := !cs.isEmpty && cs.all Text.isDigit

def chatId (raw : String) : Except Failure String :=
  let id := Text.trimChars raw.toList
  if id.isEmpty then .error (.validation "chat id missing")
  else if id.contains '@' then .ok (String.ofList id)
  else
    let number := id.dropWhile (· == '+')
    if number.contains '-' && (Text.splitOn '-' number).all isNumber then
      .ok (String.ofList number ++ "@g.us")
    else if isNumber number then .ok (String.ofList number ++ "@s.whatsapp.net")
    else .error (.validation ("malformed chat id: '" ++ raw ++ "'"))

end ChatGateway.Outbound
