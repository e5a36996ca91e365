import Turnstile.Time.Zone

/-!
# The zones of a rehearsal

The clocks of a made-up world.  They change from December 2023 to January 2025; besides,
those of Pacific/Apia skip a day in 2011, and those of America/St_Johns go back over
midnight in 2010.  Zones that share all changes share a row.
-/

set_option autoImplicit false

namespace Turnstile.Rehearsal

open Time (Zone eastward westward changeAt)

/-- Zones with the same offsets: the first one east of UTC, in seconds, then each
change. -/
structure ZoneRow where
  base : Int
  changes : List (Int × Int)
  names : List String

/-- The rows of the table. -/
def zoneRows : List ZoneRow := [
  ⟨eastward 0 0, [],
    ["Africa/Abidjan", "Africa/Accra", "Africa/Bamako", "Africa/Banjul", "Africa/Bissau",
    "Africa/Conakry", "Africa/Dakar", "Africa/Freetown", "Africa/Lome", "Africa/Monrovia",
    "Africa/Nouakchott", "Africa/Ouagadougou", "Africa/Sao_Tome", "Africa/Timbuktu",
    "America/Danmarkshavn", "Atlantic/Reykjavik", "Atlantic/St_Helena",
    "Etc/GMT", "Etc/GMT+0", "Etc/GMT-0", "Etc/GMT0", "Etc/Greenwich", "Etc/UCT",
    "Etc/UTC", "Etc/Universal", "Etc/Zulu", "GMT", "GMT+0", "GMT-0", "GMT0", "Greenwich",
    "Iceland", "UCT", "UTC", "Universal", "Zulu"]⟩,
  ⟨eastward 0 0,
    [changeAt 2024 3 31 1 0 (eastward 1 0), changeAt 2024 10 27 1 0 (eastward 0 0)],
    ["Atlantic/Canary", "Atlantic/Faeroe", "Atlantic/Faroe", "Atlantic/Madeira", "Eire",
    "Europe/Belfast", "Europe/Dublin", "Europe/Guernsey", "Europe/Isle_of_Man",
    "Europe/Jersey", "Europe/Lisbon", "Europe/London", "GB", "GB-Eire",
    "Portugal", "WET"]⟩,
  ⟨eastward 0 0,
    [changeAt 2024 3 31 1 0 (eastward 2 0), changeAt 2024 10 27 1 0 (eastward 0 0)],
    ["Antarctica/Troll"]⟩,
  ⟨eastward 1 0, [],
    ["Africa/Algiers", "Africa/Bangui", "Africa/Brazzaville", "Africa/Douala",
    "Africa/Kinshasa", "Africa/Lagos", "Africa/Libreville", "Africa/Luanda",
    "Africa/Malabo", "Africa/Ndjamena", "Africa/Niamey", "Africa/Porto-Novo",
    "Africa/Tunis", "Etc/GMT-1"]⟩,
  ⟨eastward 1 0,
    [changeAt 2024 3 10 2 0 (eastward 0 0), changeAt 2024 4 14 2 0 (eastward 1 0)],
    ["Africa/Casablanca", "Africa/El_Aaiun"]⟩,
  ⟨eastward 1 0,
    [changeAt 2024 3 31 1 0 (eastward 2 0), changeAt 2024 10 27 1 0 (eastward 1 0)],
    ["Africa/Ceuta", "Arctic/Longyearbyen", "Atlantic/Jan_Mayen", "CET",
    "Europe/Amsterdam", "Europe/Andorra", "Europe/Belgrade", "Europe/Berlin",
    "Europe/Bratislava", "Europe/Brussels", "Europe/Budapest", "Europe/Busingen",
    "Europe/Copenhagen", "Europe/Gibraltar", "Europe/Ljubljana", "Europe/Luxembourg",
    "Europe/Madrid", "Europe/Malta", "Europe/Monaco", "Europe/Oslo", "Europe/Paris",
    "Europe/Podgorica", "Europe/Prague", "Europe/Rome", "Europe/San_Marino",
    "Europe/Sarajevo", "Europe/Skopje", "Europe/Stockholm", "Europe/Tirane",
    "Europe/Vaduz", "Europe/Vatican", "Europe/Vienna", "Europe/Warsaw", "Europe/Zagreb",
    "Europe/Zurich", "MET", "Poland"]⟩,
  ⟨eastward 2 0, [],
    ["Africa/Blantyre", "Africa/Bujumbura", "Africa/Gaborone", "Africa/Harare",
    "Africa/Johannesburg", "Africa/Juba", "Africa/Khartoum", "Africa/Kigali",
    "Africa/Lubumbashi", "Africa/Lusaka", "Africa/Maputo", "Africa/Maseru",
    "Africa/Mbabane", "Africa/Tripoli", "Africa/Windhoek", "Etc/GMT-2",
    "Europe/Kaliningrad", "Libya"]⟩,
  ⟨eastward 2 0,
    [changeAt 2024 3 29 0 0 (eastward 3 0), changeAt 2024 10 26 23 0 (eastward 2 0)],
    ["Asia/Jerusalem", "Asia/Tel_Aviv", "Israel"]⟩,
  ⟨eastward 2 0,
    [changeAt 2024 3 30 22 0 (eastward 3 0), changeAt 2024 10 26 21 0 (eastward 2 0)],
    ["Asia/Beirut"]⟩,
  ⟨eastward 2 0,
    [changeAt 2024 3 31 0 0 (eastward 3 0), changeAt 2024 10 27 0 0 (eastward 2 0)],
    ["Europe/Chisinau", "Europe/Tiraspol"]⟩,
  ⟨eastward 2 0,
    [changeAt 2024 3 31 1 0 (eastward 3 0), changeAt 2024 10 27 1 0 (eastward 2 0)],
    ["Asia/Famagusta", "Asia/Nicosia", "EET", "Europe/Athens", "Europe/Bucharest",
    "Europe/Helsinki", "Europe/Kiev", "Europe/Kyiv", "Europe/Mariehamn", "Europe/Nicosia",
    "Europe/Riga", "Europe/Sofia", "Europe/Tallinn", "Europe/Uzhgorod", "Europe/Vilnius",
    "Europe/Zaporozhye"]⟩,
  ⟨eastward 2 0,
    [changeAt 2024 4 20 0 0 (eastward 3 0), changeAt 2024 10 25 23 0 (eastward 2 0)],
    ["Asia/Gaza", "Asia/Hebron"]⟩,
  ⟨eastward 2 0,
    [changeAt 2024 4 25 22 0 (eastward 3 0), changeAt 2024 10 31 21 0 (eastward 2 0)],
    ["Africa/Cairo", "Egypt"]⟩,
  ⟨eastward 3 0, [],
    ["Africa/Addis_Ababa", "Africa/Asmara", "Africa/Asmera", "Africa/Dar_es_Salaam",
    "Africa/Djibouti", "Africa/Kampala", "Africa/Mogadishu", "Africa/Nairobi",
    "Antarctica/Syowa", "Asia/Aden", "Asia/Amman", "Asia/Baghdad", "Asia/Bahrain",
    "Asia/Damascus", "Asia/Istanbul", "Asia/Kuwait", "Asia/Qatar", "Asia/Riyadh",
    "Etc/GMT-3", "Europe/Istanbul", "Europe/Kirov", "Europe/Minsk", "Europe/Moscow",
    "Europe/Simferopol", "Europe/Volgograd", "Indian/Antananarivo", "Indian/Comoro",
    "Indian/Mayotte", "Turkey", "W-SU"]⟩,
  ⟨eastward 3 30, [],
    ["Asia/Tehran", "Iran"]⟩,
  ⟨eastward 4 0, [],
    ["Asia/Baku", "Asia/Dubai", "Asia/Muscat", "Asia/Tbilisi",
    "Asia/Yerevan", "Etc/GMT-4", "Europe/Astrakhan", "Europe/Samara", "Europe/Saratov",
    "Europe/Ulyanovsk", "Indian/Mahe", "Indian/Mauritius", "Indian/Reunion"]⟩,
  ⟨eastward 4 30, [],
    ["Asia/Kabul"]⟩,
  ⟨eastward 5 0, [],
    ["Antarctica/Mawson", "Asia/Aqtau", "Asia/Aqtobe", "Asia/Ashgabat", "Asia/Ashkhabad",
    "Asia/Atyrau", "Asia/Dushanbe", "Asia/Karachi", "Asia/Oral", "Asia/Qyzylorda",
    "Asia/Samarkand", "Asia/Tashkent", "Asia/Yekaterinburg", "Etc/GMT-5",
    "Indian/Kerguelen", "Indian/Maldives"]⟩,
  ⟨eastward 5 30, [],
    ["Asia/Calcutta", "Asia/Colombo", "Asia/Kolkata"]⟩,
  ⟨eastward 5 45, [],
    ["Asia/Kathmandu", "Asia/Katmandu"]⟩,
  ⟨eastward 6 0, [],
    ["Asia/Bishkek", "Asia/Dacca", "Asia/Dhaka", "Asia/Kashgar",
    "Asia/Omsk", "Asia/Thimbu", "Asia/Thimphu", "Asia/Urumqi", "Etc/GMT-6",
    "Indian/Chagos"]⟩,
  ⟨eastward 6 0, [changeAt 2024 2 29 18 0 (eastward 5 0)],
    ["Asia/Almaty", "Asia/Qostanay"]⟩,
  ⟨eastward 6 30, [],
    ["Asia/Rangoon", "Asia/Yangon", "Indian/Cocos"]⟩,
  ⟨eastward 7 0, [],
    ["Antarctica/Davis", "Asia/Bangkok", "Asia/Barnaul", "Asia/Ho_Chi_Minh", "Asia/Hovd",
    "Asia/Jakarta", "Asia/Krasnoyarsk", "Asia/Novokuznetsk", "Asia/Novosibirsk",
    "Asia/Phnom_Penh", "Asia/Pontianak", "Asia/Saigon", "Asia/Tomsk", "Asia/Vientiane",
    "Etc/GMT-7", "Indian/Christmas"]⟩,
  ⟨eastward 7 0, [changeAt 2023 12 17 19 0 (eastward 5 0)],
    ["Antarctica/Vostok"]⟩,
  ⟨eastward 8 0, [],
    ["Antarctica/Casey", "Asia/Brunei", "Asia/Choibalsan", "Asia/Chongqing",
    "Asia/Chungking", "Asia/Harbin", "Asia/Hong_Kong", "Asia/Irkutsk",
    "Asia/Kuala_Lumpur", "Asia/Kuching", "Asia/Macao", "Asia/Macau", "Asia/Makassar",
    "Asia/Manila", "Asia/Shanghai", "Asia/Singapore", "Asia/Taipei", "Asia/Ujung_Pandang",
    "Asia/Ulaanbaatar", "Asia/Ulan_Bator", "Australia/Perth", "Australia/West",
    "Etc/GMT-8", "Hongkong", "PRC", "ROC", "Singapore"]⟩,
  ⟨eastward 8 45, [],
    ["Australia/Eucla"]⟩,
  ⟨eastward 9 0, [],
    ["Asia/Chita", "Asia/Dili", "Asia/Jayapura", "Asia/Khandyga",
    "Asia/Pyongyang", "Asia/Seoul", "Asia/Tokyo", "Asia/Yakutsk", "Etc/GMT-9", "Japan",
    "Pacific/Palau", "ROK"]⟩,
  ⟨eastward 9 30, [],
    ["Australia/Darwin", "Australia/North"]⟩,
  ⟨eastward 10 0, [],
    ["Antarctica/DumontDUrville", "Asia/Ust-Nera", "Asia/Vladivostok",
    "Australia/Brisbane", "Australia/Lindeman", "Australia/Queensland", "Etc/GMT-10",
    "Pacific/Chuuk", "Pacific/Guam", "Pacific/Port_Moresby", "Pacific/Saipan",
    "Pacific/Truk", "Pacific/Yap"]⟩,
  ⟨eastward 10 30, [
      changeAt 2024 4 6 16 30 (eastward 9 30),
      changeAt 2024 10 5 16 30 (eastward 10 30)],
    ["Australia/Adelaide", "Australia/Broken_Hill", "Australia/South",
      "Australia/Yancowinna"]⟩,
  ⟨eastward 11 0, [],
    ["Asia/Magadan", "Asia/Sakhalin", "Asia/Srednekolymsk", "Etc/GMT-11",
    "Pacific/Bougainville", "Pacific/Efate", "Pacific/Guadalcanal", "Pacific/Kosrae",
    "Pacific/Noumea", "Pacific/Pohnpei", "Pacific/Ponape"]⟩,
  ⟨eastward 11 0, [
      changeAt 2024 4 6 16 0 (eastward 10 0),
      changeAt 2024 10 5 16 0 (eastward 11 0)],
    ["Antarctica/Macquarie", "Australia/ACT", "Australia/Canberra", "Australia/Currie",
    "Australia/Hobart", "Australia/Melbourne", "Australia/NSW", "Australia/Sydney",
    "Australia/Tasmania", "Australia/Victoria"]⟩,
  ⟨eastward 11 0, [
      changeAt 2024 4 6 15 0 (eastward 10 30),
      changeAt 2024 10 5 15 30 (eastward 11 0)],
    ["Australia/LHI", "Australia/Lord_Howe"]⟩,
  ⟨eastward 12 0, [],
    ["Asia/Anadyr", "Asia/Kamchatka", "Etc/GMT-12", "Kwajalein", "Pacific/Fiji",
    "Pacific/Funafuti", "Pacific/Kwajalein", "Pacific/Majuro", "Pacific/Nauru",
    "Pacific/Tarawa", "Pacific/Wake", "Pacific/Wallis"]⟩,
  ⟨eastward 12 0, [
      changeAt 2024 4 6 15 0 (eastward 11 0),
      changeAt 2024 10 5 15 0 (eastward 12 0)],
    ["Pacific/Norfolk"]⟩,
  ⟨eastward 13 0, [],
    ["Etc/GMT-13", "Pacific/Enderbury", "Pacific/Fakaofo", "Pacific/Kanton",
      "Pacific/Tongatapu"]⟩,
  ⟨eastward 13 0, [
      changeAt 2024 4 6 14 0 (eastward 12 0),
      changeAt 2024 9 28 14 0 (eastward 13 0)],
    ["Antarctica/McMurdo", "Antarctica/South_Pole", "NZ", "Pacific/Auckland"]⟩,
  ⟨eastward 13 45, [
      changeAt 2024 4 6 14 0 (eastward 12 45),
      changeAt 2024 9 28 14 0 (eastward 13 45)],
    ["NZ-CHAT", "Pacific/Chatham"]⟩,
  ⟨eastward 14 0, [],
    ["Etc/GMT-14", "Pacific/Kiritimati"]⟩,
  ⟨westward 1 0, [],
    ["Atlantic/Cape_Verde", "Etc/GMT+1"]⟩,
  ⟨westward 1 0,
    [changeAt 2024 3 31 1 0 (eastward 0 0), changeAt 2024 10 27 1 0 (westward 1 0)],
    ["Atlantic/Azores"]⟩,
  ⟨westward 1 0, [changeAt 2024 10 27 1 0 (westward 2 0)],
    ["America/Scoresbysund"]⟩,
  ⟨westward 2 0, [],
    ["America/Noronha", "Atlantic/South_Georgia", "Brazil/DeNoronha", "Etc/GMT+2"]⟩,
  ⟨westward 2 0,
    [changeAt 2024 3 31 1 0 (westward 1 0), changeAt 2024 10 27 1 0 (westward 2 0)],
    ["America/Godthab", "America/Nuuk"]⟩,
  ⟨westward 3 0, [],
    ["America/Araguaina", "America/Argentina/Buenos_Aires", "America/Argentina/Catamarca",
    "America/Argentina/ComodRivadavia", "America/Argentina/Cordoba",
    "America/Argentina/Jujuy", "America/Argentina/La_Rioja", "America/Argentina/Mendoza",
    "America/Argentina/Rio_Gallegos", "America/Argentina/Salta",
    "America/Argentina/San_Juan", "America/Argentina/San_Luis",
    "America/Argentina/Tucuman", "America/Argentina/Ushuaia", "America/Bahia",
    "America/Belem", "America/Buenos_Aires", "America/Catamarca", "America/Cayenne",
    "America/Cordoba", "America/Fortaleza", "America/Jujuy", "America/Maceio",
    "America/Mendoza", "America/Montevideo", "America/Paramaribo", "America/Punta_Arenas",
    "America/Recife", "America/Rosario", "America/Santarem", "America/Sao_Paulo",
    "Antarctica/Palmer", "Antarctica/Rothera", "Atlantic/Stanley",
    "Brazil/East", "Etc/GMT+3"]⟩,
  ⟨westward 3 0,
    [changeAt 2024 3 10 5 0 (westward 2 0), changeAt 2024 11 3 4 0 (westward 3 0)],
    ["America/Miquelon"]⟩,
  ⟨westward 3 0,
    [changeAt 2024 3 24 3 0 (westward 4 0), changeAt 2024 10 6 4 0 (westward 3 0)],
    ["America/Asuncion"]⟩,
  ⟨westward 3 0,
    [changeAt 2024 4 7 3 0 (westward 4 0), changeAt 2024 9 8 4 0 (westward 3 0)],
    ["America/Coyhaique", "America/Santiago", "Chile/Continental"]⟩,
  ⟨westward 3 30, [
      changeAt 2010 3 14 3 31 (westward 2 30),
      changeAt 2010 11 7 2 31 (westward 3 30),
      changeAt 2024 3 10 5 30 (westward 2 30),
      changeAt 2024 11 3 4 30 (westward 3 30)],
    ["America/St_Johns", "Canada/Newfoundland"]⟩,
  ⟨westward 4 0, [],
    ["America/Anguilla", "America/Antigua", "America/Aruba", "America/Barbados",
    "America/Blanc-Sablon", "America/Boa_Vista", "America/Campo_Grande",
    "America/Caracas", "America/Cuiaba", "America/Curacao", "America/Dominica",
    "America/Grenada", "America/Guadeloupe", "America/Guyana", "America/Kralendijk",
    "America/La_Paz", "America/Lower_Princes", "America/Manaus", "America/Marigot",
    "America/Martinique", "America/Montserrat", "America/Port_of_Spain",
    "America/Porto_Velho", "America/Puerto_Rico", "America/Santo_Domingo",
    "America/St_Barthelemy", "America/St_Kitts", "America/St_Lucia", "America/St_Thomas",
    "America/St_Vincent", "America/Tortola", "America/Virgin",
    "Brazil/West", "Etc/GMT+4"]⟩,
  ⟨westward 4 0,
    [changeAt 2024 3 10 6 0 (westward 3 0), changeAt 2024 11 3 5 0 (westward 4 0)],
    ["America/Glace_Bay", "America/Goose_Bay", "America/Halifax", "America/Moncton",
      "America/Thule", "Atlantic/Bermuda", "Canada/Atlantic"]⟩,
  ⟨westward 5 0, [],
    ["America/Atikokan", "America/Bogota", "America/Cancun", "America/Cayman",
    "America/Coral_Harbour", "America/Eirunepe", "America/Guayaquil", "America/Jamaica",
    "America/Lima", "America/Panama", "America/Porto_Acre",
    "America/Rio_Branco", "Brazil/Acre", "EST", "Etc/GMT+5", "Jamaica"]⟩,
  ⟨westward 5 0,
    [changeAt 2024 3 10 5 0 (westward 4 0), changeAt 2024 11 3 5 0 (westward 5 0)],
    ["America/Havana", "Cuba"]⟩,
  ⟨westward 5 0,
    [changeAt 2024 3 10 7 0 (westward 4 0), changeAt 2024 11 3 6 0 (westward 5 0)],
    ["America/Detroit", "America/Fort_Wayne", "America/Grand_Turk",
    "America/Indiana/Indianapolis", "America/Indiana/Marengo",
    "America/Indiana/Petersburg", "America/Indiana/Vevay", "America/Indiana/Vincennes",
    "America/Indiana/Winamac", "America/Indianapolis", "America/Iqaluit",
    "America/Kentucky/Louisville", "America/Kentucky/Monticello", "America/Louisville",
    "America/Montreal", "America/Nassau", "America/New_York", "America/Nipigon",
    "America/Pangnirtung", "America/Port-au-Prince", "America/Thunder_Bay",
    "America/Toronto", "Canada/Eastern", "EST5EDT", "US/East-Indiana", "US/Eastern",
    "US/Michigan"]⟩,
  ⟨westward 5 0,
    [changeAt 2024 4 7 3 0 (westward 6 0), changeAt 2024 9 8 4 0 (westward 5 0)],
    ["Chile/EasterIsland", "Pacific/Easter"]⟩,
  ⟨westward 6 0, [],
    ["America/Bahia_Banderas", "America/Belize", "America/Chihuahua",
    "America/Costa_Rica", "America/El_Salvador", "America/Guatemala", "America/Managua",
    "America/Merida", "America/Mexico_City", "America/Monterrey", "America/Regina",
    "America/Swift_Current", "America/Tegucigalpa", "Canada/Saskatchewan", "Etc/GMT+6",
    "Mexico/General", "Pacific/Galapagos"]⟩,
  ⟨westward 6 0,
    [changeAt 2024 3 10 8 0 (westward 5 0), changeAt 2024 11 3 7 0 (westward 6 0)],
    ["America/Chicago", "America/Indiana/Knox", "America/Indiana/Tell_City",
    "America/Knox_IN", "America/Matamoros", "America/Menominee",
    "America/North_Dakota/Beulah", "America/North_Dakota/Center",
    "America/North_Dakota/New_Salem", "America/Ojinaga", "America/Rainy_River",
    "America/Rankin_Inlet", "America/Resolute", "America/Winnipeg", "CST6CDT",
    "Canada/Central", "US/Central", "US/Indiana-Starke"]⟩,
  ⟨westward 7 0, [],
    ["America/Creston", "America/Dawson", "America/Dawson_Creek", "America/Fort_Nelson",
    "America/Hermosillo", "America/Mazatlan", "America/Phoenix", "America/Whitehorse",
    "Canada/Yukon", "Etc/GMT+7", "MST", "Mexico/BajaSur", "US/Arizona"]⟩,
  ⟨westward 7 0,
    [changeAt 2024 3 10 9 0 (westward 6 0), changeAt 2024 11 3 8 0 (westward 7 0)],
    ["America/Boise", "America/Cambridge_Bay", "America/Ciudad_Juarez", "America/Denver",
    "America/Edmonton", "America/Inuvik", "America/Shiprock", "America/Yellowknife",
    "Canada/Mountain", "MST7MDT", "Navajo", "US/Mountain"]⟩,
  ⟨westward 8 0, [],
    ["Etc/GMT+8", "Pacific/Pitcairn"]⟩,
  ⟨westward 8 0,
    [changeAt 2024 3 10 10 0 (westward 7 0), changeAt 2024 11 3 9 0 (westward 8 0)],
    ["America/Ensenada", "America/Los_Angeles", "America/Santa_Isabel", "America/Tijuana",
      "America/Vancouver", "Canada/Pacific", "Mexico/BajaNorte",
      "PST8PDT", "US/Pacific"]⟩,
  ⟨westward 9 0, [],
    ["Etc/GMT+9", "Pacific/Gambier"]⟩,
  ⟨westward 9 0,
    [changeAt 2024 3 10 11 0 (westward 8 0), changeAt 2024 11 3 10 0 (westward 9 0)],
    ["America/Anchorage", "America/Juneau", "America/Metlakatla", "America/Nome",
      "America/Sitka", "America/Yakutat", "US/Alaska"]⟩,
  ⟨westward 9 30, [],
    ["Pacific/Marquesas"]⟩,
  ⟨westward 10 0, [],
    ["Etc/GMT+10", "HST", "Pacific/Honolulu", "Pacific/Johnston", "Pacific/Rarotonga",
    "Pacific/Tahiti", "US/Hawaii"]⟩,
  ⟨westward 10 0, [
      changeAt 2024 3 10 12 0 (westward 9 0),
      changeAt 2024 11 3 11 0 (westward 10 0)],
    ["America/Adak", "America/Atka", "US/Aleutian"]⟩,
  ⟨westward 11 0, [],
    ["Etc/GMT+11", "Pacific/Midway", "Pacific/Niue", "Pacific/Pago_Pago", "Pacific/Samoa",
    "US/Samoa"]⟩,
  ⟨westward 12 0, [],
    ["Etc/GMT+12"]⟩,
  ⟨westward 10 0, [
      changeAt 2011 12 30 10 0 (eastward 14 0),
      changeAt 2012 3 31 14 0 (eastward 13 0)],
    ["Pacific/Apia"]⟩]

/-- The zones there are. -/
def zones : List Zone :=
  zoneRows.flatMap fun row => row.names.map fun name => ⟨name, row.base, row.changes⟩

end Turnstile.Rehearsal
