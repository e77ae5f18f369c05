import SheetSearch.Text.Marks
import SheetSearch.Text.Rows

/-!
The direction of writing. In a name with characters that are written from right to left, each label
keeps to one direction, so that the labels do not change places when the name is shown.
-/

namespace SheetSearch.Url.Domain

inductive Direction where
  | leftToRight
  | rightToLeft
  | europeanNumber
  | arabicNumber
  | nonspacing
  | neutral
deriving DecidableEq, Repr

def Direction.ofChars : List Char → Direction
  | ['R'] => rightToLeft
  | ['E'] => europeanNumber
  | ['A'] => arabicNumber
  | ['N'] => neutral
  | _ => leftToRight

def directionRows : Text.Rows Direction := Text.Rows.ofText Direction.ofChars "
  0-2F=N 30-39=E 3A-60=N 7B-D7=N F7=N 2B9-2BA=N 2C2-2CF=N 2D2-2ED=N 2EF-2FF=N 375=N 3F6=N 58A=N
  58D-58F=N 590=R 5BE=R 5C0=R 5C3=R 5C6=R 5C8-5FF=R 606-607=N 608=R 609-60A=N 60B=R 60C=N 60D=R
  60E-60F=N 61B-64A=R 660-669=A 66A=N 66B-66C=A 66D-66F=R 671-6D5=R 6DE=N 6E5-6E6=R 6E9=N
  6EE-6EF=R 6F0-6F9=E 6FA-710=R 712-72F=R 74B-7A5=R 7B1-7EA=R 7F4-7F5=R 7F6-7F9=N 7FA-7FC=R
  7FE-815=R 81A=R 824=R 828=R 82E-858=R 85C-88E=R 892-896=R 8A0-8C9=R 9F2-9F3=N 9FB=N AF1=N
  BF3-BFA=N C78-C7E=N CBF=L CC6=L E3F=N F3A-F3D=N 1390-1399=N 1400=N 169B-169C=N 17DB=N
  17F0-17F9=N 1800-180A=N 1940=N 1944-1945=N 19DE-19FF=N 200C-205E=N 20A0-20CF=N 2104-214D=N
  218A-218B=N 2190-2335=N 237B-2394=N 2396-2429=N 2440-244A=N 24EB-26AB=N 26AD-27FF=N 2900-2B73=N
  2B76-2BFF=N 2CE5-2CEA=N 2CF9-2CFF=N 2E00-2E5D=N 2E80-2E99=N 2E9B-2EF2=N 3001-3004=N 3008-3020=N
  3030=N 3037=N 303D-303F=N 30A0=N 30FB=N 31C0-31E5=N 4DC0-4DFF=N A490-A4C6=N A60D-A60F=N A673=N
  A67E-A67F=N A700-A721=N A788=N A828-A82B=N A838-A839=N A874-A877=N AB6A-AB6B=N FB37-FBC2=R
  FBC3-FDFF=N FE45-FE46=N FE73-FEFE=R 10101=N 10140-1018C=N 10190-1019C=N 101A0=N 102E1-102FB=E
  10800-1091E=R 1091F=N 10920-10A00=R 10A04=R 10A07-10A0B=R 10A10-10A37=R 10A3B-10A3E=R
  10A40-10AE4=R 10AE7-10B38=R 10B39-10B3F=N 10B40-10D23=R 10D28-10D2F=R 10D30-10D39=A
  10D3A-10D3F=R 10D40-10D49=A 10D4A-10D68=R 10D6E=N 10D6F-10E5F=R 10E60-10E7E=A 10E7F-10EAA=R
  10EAD-10ECF=R 10ED0-10ED8=N 10ED9-10EF9=R 10F00-10F45=R 10F51-10F81=R 10F86-10FFF=R
  11052-11065=N 11660-1166C=N 11A07-11A08=L 11C3F=L 11FD5-11FF1=N 16FE2=N 1CC00-1CCFC=N
  1CD00-1CEB3=N 1CEBA-1CED0=N 1CEE0-1CEF0=N 1D1E9-1D1EA=N 1D200-1D241=N 1D245=N 1D300-1D356=N
  1E2FF=N 1E800-1E8CF=R 1E8D7-1E943=R 1E94B-1EEEF=R 1EEF0-1EEF1=N 1EEF2-1EFFF=R 1F000-1F02B=N
  1F030-1F093=N 1F0A0-1F0AE=N 1F0B1-1F0BF=N 1F0C1-1F0CF=N 1F0D1-1F0F5=N 1F10B-1F12F=N
  1F16D-1F16F=N 1F1AD=N 1F260-1F265=N 1F300-1F6D8=N 1F6DC-1F6EC=N 1F6F0-1F6FC=N 1F700-1F7D9=N
  1F7E0-1F7EB=N 1F7F0=N 1F800-1F80B=N 1F810-1F847=N 1F850-1F859=N 1F860-1F887=N 1F890-1F8AD=N
  1F8B0-1F8BB=N 1F8C0-1F8C1=N 1F8D0-1F8D8=N 1F900-1FA57=N 1FA60-1FA6D=N 1FA70-1FA7C=N
  1FA80-1FA8A=N 1FA8E-1FAC6=N 1FAC8=N 1FACD-1FADC=N 1FADF-1FAEA=N 1FAEF-1FAF8=N 1FB00-1FB92=N
  1FB94-1FBFA=N"

/-- Characters that the rows do not speak of are marks or written from left to right. -/
def direction (c : Char) : Direction :=
  match directionRows.valueAt? c.toNat with
  | some d => d
  | none => if Text.isNonspacing c then .nonspacing else .leftToRight

/-- A character that makes the direction of a whole name matter. Hebrew is the first such script. -/
def turnsAround (c : Char) : Bool :=
  decide (0x590 ≤ c.toNat) &&
    match direction c with
    | .rightToLeft | .arabicNumber => true
    | _ => false

/-- A label from left to right holds nothing of the other direction and ends in it. -/
def runsRight (inner : List Direction) (last : Option Direction) : Bool :=
  inner.all (fun d => d ≠ .rightToLeft && d ≠ .arabicNumber)
    && last.all (fun d => d = .leftToRight || d = .europeanNumber)

/-- A label from right to left has numbers of one kind only. -/
def runsLeft (inner : List Direction) (last : Option Direction) : Bool :=
  inner.all (· ≠ .leftToRight)
    && !(inner.contains .europeanNumber && inner.contains .arabicNumber)
    && last.all (fun d => d = .rightToLeft || d = .europeanNumber || d = .arabicNumber)

/-- A label begins with a letter, whose direction is that of the label. Marks at the end belong to
the character before them. -/
def keepsDirection (label : List Char) : Bool :=
  match label.map direction with
  | [] => true
  | first :: rest =>
    let inner := (rest.reverse.dropWhile (· = .nonspacing)).reverse
    match first with
    | .leftToRight => runsRight inner inner.getLast?
    | .rightToLeft => runsLeft inner inner.getLast?
    | _ => false

def directionsFit (labels : List (List Char)) : Bool :=
  !(labels.any (·.any turnsAround)) || labels.all keepsDirection

end SheetSearch.Url.Domain
