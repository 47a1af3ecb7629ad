import Phrasebook.Convention.Basic

/-!
The conventions of the locales that numbers, dates and times can be written in.

This stands for the data of a locale library.  Eight locales are here; any other is written by the
conventions of one that shares its language, or else by those of English.  No theorem depends on what
they say.
-/

namespace Phrasebook.Conventions

def english : Conventions where
  decimalPattern := "#,##0.###"
  percentPattern := "#,##0%"
  currencyPattern := "¤#,##0.00"
  decimalMark := "."
  groupMark := ","
  currencySymbols :=
    [("USD", "$"), ("EUR", "€"), ("JPY", "¥"), ("KWD", "KWD"), ("CHF", "CHF"), ("GBP", "£")]
  datePatterns := ⟨"M/d/yy", "MMM d, y", "MMMM d, y", "EEEE, MMMM d, y"⟩
  timePatterns := ⟨"h:mm\u202fa", "h:mm:ss\u202fa", "h:mm:ss\u202fa z", "h:mm:ss\u202fa zzzz"⟩
  shortMonths :=
    ["Jan", "Feb", "Mar", "Apr", "May", "Jun", "Jul", "Aug", "Sep", "Oct", "Nov", "Dec"]
  months :=
    ["January", "February", "March", "April", "May", "June", "July", "August", "September",
     "October", "November", "December"]
  weekdays :=
    ["Monday", "Tuesday", "Wednesday", "Thursday", "Friday", "Saturday", "Sunday"]
  dayHalves := ["AM", "PM"]
  universalTimeShort := "UTC"
  universalTime := "Coordinated Universal Time"
  offsetAround := ("GMT", "")

def germanGermany : Conventions where
  decimalPattern := "#,##0.###"
  percentPattern := "#,##0\u00a0%"
  currencyPattern := "#,##0.00\u00a0¤"
  decimalMark := ","
  groupMark := "."
  currencySymbols :=
    [("USD", "$"), ("EUR", "€"), ("JPY", "¥"), ("KWD", "KWD"), ("CHF", "CHF"), ("GBP", "£")]
  datePatterns := ⟨"dd.MM.yy", "dd.MM.y", "d. MMMM y", "EEEE, d. MMMM y"⟩
  timePatterns := ⟨"HH:mm", "HH:mm:ss", "HH:mm:ss z", "HH:mm:ss zzzz"⟩
  shortMonths :=
    ["Jan.", "Feb.", "März", "Apr.", "Mai", "Juni", "Juli", "Aug.", "Sept.", "Okt.", "Nov.",
     "Dez."]
  months :=
    ["Januar", "Februar", "März", "April", "Mai", "Juni", "Juli", "August", "September",
     "Oktober", "November", "Dezember"]
  weekdays :=
    ["Montag", "Dienstag", "Mittwoch", "Donnerstag", "Freitag", "Samstag", "Sonntag"]
  dayHalves := []
  universalTimeShort := "UTC"
  universalTime := "Koordinierte Weltzeit"
  offsetAround := ("GMT", "")

def french : Conventions where
  decimalPattern := "#,##0.###"
  percentPattern := "#,##0\u00a0%"
  currencyPattern := "#,##0.00\u00a0¤"
  decimalMark := ","
  groupMark := "\u202f"
  currencySymbols :=
    [("USD", "$US"), ("EUR", "€"), ("JPY", "JPY"), ("KWD", "KWD"), ("CHF", "CHF"),
     ("GBP", "£GB")]
  datePatterns := ⟨"dd/MM/y", "d MMM y", "d MMMM y", "EEEE d MMMM y"⟩
  timePatterns := ⟨"HH:mm", "HH:mm:ss", "HH:mm:ss z", "HH:mm:ss zzzz"⟩
  shortMonths :=
    ["janv.", "févr.", "mars", "avr.", "mai", "juin", "juil.", "août", "sept.", "oct.", "nov.",
     "déc."]
  months :=
    ["janvier", "février", "mars", "avril", "mai", "juin", "juillet", "août", "septembre",
     "octobre", "novembre", "décembre"]
  weekdays :=
    ["lundi", "mardi", "mercredi", "jeudi", "vendredi", "samedi", "dimanche"]
  dayHalves := []
  universalTimeShort := "TU"
  universalTime := "temps universel coordonné"
  offsetAround := ("UTC", "")

def japanese : Conventions where
  decimalPattern := "#,##0.###"
  percentPattern := "#,##0%"
  currencyPattern := "¤#,##0.00"
  decimalMark := "."
  groupMark := ","
  currencySymbols :=
    [("USD", "$"), ("EUR", "€"), ("JPY", "￥"), ("KWD", "KWD"), ("CHF", "CHF"), ("GBP", "£")]
  datePatterns := ⟨"y/MM/dd", "y/MM/dd", "y年M月d日", "y年M月d日EEEE"⟩
  timePatterns := ⟨"H:mm", "H:mm:ss", "H:mm:ss z", "H時mm分ss秒 zzzz"⟩
  shortMonths :=
    ["1月", "2月", "3月", "4月", "5月", "6月", "7月", "8月", "9月", "10月", "11月", "12月"]
  months :=
    ["1月", "2月", "3月", "4月", "5月", "6月", "7月", "8月", "9月", "10月", "11月", "12月"]
  weekdays :=
    ["月曜日", "火曜日", "水曜日", "木曜日", "金曜日", "土曜日", "日曜日"]
  dayHalves := []
  universalTimeShort := "UTC"
  universalTime := "協定世界時"
  offsetAround := ("GMT", "")

def hindi : Conventions where
  decimalPattern := "#,##,##0.###"
  percentPattern := "#,##,##0%"
  currencyPattern := "¤#,##,##0.00"
  decimalMark := "."
  groupMark := ","
  currencySymbols :=
    [("USD", "$"), ("EUR", "€"), ("JPY", "JP¥"), ("KWD", "KWD"), ("CHF", "CHF"), ("GBP", "£")]
  datePatterns := ⟨"d/M/yy", "d MMM y", "d MMMM y", "EEEE, d MMMM y"⟩
  timePatterns := ⟨"h:mm a", "h:mm:ss a", "h:mm:ss a z", "h:mm:ss a zzzz"⟩
  shortMonths :=
    ["जन॰", "फ़र॰", "मार्च", "अप्रैल", "मई", "जून", "जुल॰", "अग॰", "सित॰", "अक्टू॰", "नव॰",
     "दिस॰"]
  months :=
    ["जनवरी", "फ़रवरी", "मार्च", "अप्रैल", "मई", "जून", "जुलाई", "अगस्त", "सितंबर", "अक्टूबर",
     "नवंबर", "दिसंबर"]
  weekdays :=
    ["सोमवार", "मंगलवार", "बुधवार", "गुरुवार", "शुक्रवार", "शनिवार", "रविवार"]
  dayHalves := ["am", "pm"]
  universalTimeShort := "UTC"
  universalTime := "समन्वित वैश्विक समय"
  offsetAround := ("GMT", "")

def hebrew : Conventions where
  decimalPattern := "#,##0.###"
  percentPattern := "#,##0%"
  currencyPattern := "\u200f#,##0.00\u00a0\u200f¤;\u200f-#,##0.00\u00a0\u200f¤"
  decimalMark := "."
  groupMark := ","
  currencySymbols :=
    [("USD", "$"), ("EUR", "€"), ("JPY", "¥"), ("KWD", "KWD"), ("CHF", "CHF"), ("GBP", "£")]
  datePatterns := ⟨"d.M.y", "d בMMM y", "d בMMMM y", "EEEE, d בMMMM y"⟩
  timePatterns := ⟨"H:mm", "H:mm:ss", "H:mm:ss z", "H:mm:ss zzzz"⟩
  shortMonths :=
    ["ינו׳", "פבר׳", "מרץ", "אפר׳", "מאי", "יוני", "יולי", "אוג׳", "ספט׳", "אוק׳", "נוב׳",
     "דצמ׳"]
  months :=
    ["ינואר", "פברואר", "מרץ", "אפריל", "מאי", "יוני", "יולי", "אוגוסט", "ספטמבר", "אוקטובר",
     "נובמבר", "דצמבר"]
  weekdays :=
    ["יום שני", "יום שלישי", "יום רביעי", "יום חמישי", "יום שישי", "יום שבת", "יום ראשון"]
  dayHalves := []
  universalTimeShort := "UTC"
  universalTime := "זמן אוניברסלי מתואם"
  offsetAround := ("GMT", "\u200e")

def germanSwitzerland : Conventions where
  decimalPattern := "#,##0.###"
  percentPattern := "#,##0%"
  currencyPattern := "¤\u00a0#,##0.00;¤-#,##0.00"
  decimalMark := "."
  groupMark := "’"
  currencySymbols :=
    [("USD", "$"), ("EUR", "EUR"), ("JPY", "¥"), ("KWD", "KWD"), ("CHF", "CHF"), ("GBP", "£")]
  datePatterns := ⟨"dd.MM.yy", "dd.MM.y", "d. MMMM y", "EEEE, d. MMMM y"⟩
  timePatterns := ⟨"HH:mm", "HH:mm:ss", "HH:mm:ss z", "HH:mm:ss zzzz"⟩
  shortMonths :=
    ["Jan.", "Feb.", "März", "Apr.", "Mai", "Juni", "Juli", "Aug.", "Sept.", "Okt.", "Nov.",
     "Dez."]
  months :=
    ["Januar", "Februar", "März", "April", "Mai", "Juni", "Juli", "August", "September",
     "Oktober", "November", "Dezember"]
  weekdays :=
    ["Montag", "Dienstag", "Mittwoch", "Donnerstag", "Freitag", "Samstag", "Sonntag"]
  dayHalves := []
  universalTimeShort := "UTC"
  universalTime := "Koordinierte Weltzeit"
  offsetAround := ("GMT", "")

def englishBritain : Conventions where
  decimalPattern := "#,##0.###"
  percentPattern := "#,##0%"
  currencyPattern := "¤#,##0.00"
  decimalMark := "."
  groupMark := ","
  currencySymbols :=
    [("USD", "US$"), ("EUR", "€"), ("JPY", "JP¥"), ("KWD", "KWD"), ("CHF", "CHF"), ("GBP", "£")]
  datePatterns := ⟨"dd/MM/y", "d MMM y", "d MMMM y", "EEEE, d MMMM y"⟩
  timePatterns := ⟨"HH:mm", "HH:mm:ss", "HH:mm:ss z", "HH:mm:ss zzzz"⟩
  shortMonths :=
    ["Jan", "Feb", "Mar", "Apr", "May", "Jun", "Jul", "Aug", "Sept", "Oct", "Nov", "Dec"]
  months :=
    ["January", "February", "March", "April", "May", "June", "July", "August", "September",
     "October", "November", "December"]
  weekdays :=
    ["Monday", "Tuesday", "Wednesday", "Thursday", "Friday", "Saturday", "Sunday"]
  dayHalves := []
  universalTimeShort := "UTC"
  universalTime := "Coordinated Universal Time"
  offsetAround := ("GMT", "")

def table : List (String × Conventions) := [
  ("en", english),
  ("de_DE", germanGermany),
  ("fr", french),
  ("ja", japanese),
  ("hi", hindi),
  ("he", hebrew),
  ("de_CH", germanSwitzerland),
  ("en_GB", englishBritain)]

/-- The conventions of the locale whose data has this name: its own, or else those of its language,
or else English ones. -/
def ofDataName (name : String) : Conventions :=
  let language (text : String) : Option String :=
    (Locale.Identifier.ofText? text).map (·.language)
  match table.lookup name with
  | some conventions => conventions
  | none =>
      match table.find? fun entry => language entry.1 == language name with
      | some (_, conventions) => conventions
      | none => english

end Phrasebook.Conventions
