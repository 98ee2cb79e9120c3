import Flowbook.Character.Table

namespace Flowbook.Character

open Flowbook.Text

/-!
Scripts. Every character has one script; characters of several scripts are
listed with all of them in a second table.
-/

def scriptNames : List (String × List String) :=
  nameTable
  ["Adlm adlam", "Aghb caucasianalbanian", "Ahom", "Arab arabic", "Armi imperialaramaic",
   "Armn armenian", "Avst avestan", "Bali balinese", "Bamu bamum", "Bass bassavah", "Batk batak",
   "Beng bengali", "Bhks bhaiksuki", "Bopo bopomofo", "Brah brahmi", "Brai braille",
   "Bugi buginese", "Buhd buhid", "Cakm chakma", "Cans canadianaboriginal", "Cari carian", "Cham",
   "Cher cherokee", "Chrs chorasmian", "Copt coptic qaac", "Cpmn cyprominoan", "Cprt cypriot",
   "Cyrl cyrillic", "Deva devanagari", "Diak divesakuru", "Dogr dogra", "Dsrt deseret",
   "Dupl duployan", "Egyp egyptianhieroglyphs", "Elba elbasan", "Elym elymaic", "Ethi ethiopic",
   "Gara garay", "Geor georgian", "Glag glagolitic", "Gong gunjalagondi", "Gonm masaramgondi",
   "Goth gothic", "Gran grantha", "Grek greek", "Gujr gujarati", "Gukh gurungkhema",
   "Guru gurmukhi", "Hang hangul", "Hani han", "Hano hanunoo", "Hatr hatran", "Hebr hebrew",
   "Hira hiragana", "Hluw anatolianhieroglyphs", "Hmng pahawhhmong", "Hmnp nyiakengpuachuehmong",
   "Hrkt katakanaorhiragana", "Hung oldhungarian", "Ital olditalic", "Java javanese",
   "Kali kayahli", "Kana katakana", "Kawi", "Khar kharoshthi", "Khmr khmer", "Khoj khojki",
   "Kits khitansmallscript", "Knda kannada", "Krai kiratrai", "Kthi kaithi", "Lana taitham",
   "Laoo lao", "Latn latin", "Lepc lepcha", "Limb limbu", "Lina lineara", "Linb linearb", "Lisu",
   "Lyci lycian", "Lydi lydian", "Mahj mahajani", "Maka makasar", "Mand mandaic", "Mani manichaean",
   "Marc marchen", "Medf medefaidrin", "Mend mendekikakui", "Merc meroiticcursive",
   "Mero meroitichieroglyphs", "Mlym malayalam", "Modi", "Mong mongolian", "Mroo mro",
   "Mtei meeteimayek", "Mult multani", "Mymr myanmar", "Nagm nagmundari", "Nand nandinagari",
   "Narb oldnortharabian", "Nbat nabataean", "Newa", "Nkoo nko", "Nshu nushu", "Ogam ogham",
   "Olck olchiki", "Onao olonal", "Orkh oldturkic", "Orya oriya", "Osge osage", "Osma osmanya",
   "Ougr olduyghur", "Palm palmyrene", "Pauc paucinhau", "Perm oldpermic", "Phag phagspa",
   "Phli inscriptionalpahlavi", "Phlp psalterpahlavi", "Phnx phoenician", "Plrd miao",
   "Prti inscriptionalparthian", "Rjng rejang", "Rohg hanifirohingya", "Runr runic",
   "Samr samaritan", "Sarb oldsoutharabian", "Saur saurashtra", "Sgnw signwriting", "Shaw shavian",
   "Shrd sharada", "Sidd siddham", "Sind khudawadi", "Sinh sinhala", "Sogd sogdian",
   "Sogo oldsogdian", "Sora sorasompeng", "Soyo soyombo", "Sund sundanese", "Sunu sunuwar",
   "Sylo sylotinagri", "Syrc syriac", "Tagb tagbanwa", "Takr takri", "Tale taile", "Talu newtailue",
   "Taml tamil", "Tang tangut", "Tavt taiviet", "Telu telugu", "Tfng tifinagh", "Tglg tagalog",
   "Thaa thaana", "Thai", "Tibt tibetan", "Tirh tirhuta", "Tnsa tangsa", "Todr todhri", "Toto",
   "Tutg tulutigalari", "Ugar ugaritic", "Vaii vai", "Vith vithkuqi", "Wara warangciti",
   "Wcho wancho", "Xpeo oldpersian", "Xsux cuneiform", "Yezi yezidi", "Yiii yi",
   "Zanb zanabazarsquare", "Zinh inherited qaai", "Zyyy common", "Zzzz unknown"]

def scriptRuns : List Run :=
  runs 4
  ["Zyyy41 Latn1a Zyyy6 Latn1a Zyyy2f Latn Zyyyf Latn Zyyy5 Latn17 Zyyy Latn1f Zyyy Latn1c1",
   "Zyyy27 Latn5 Zyyy5 Bopo2 Zyyy14 Zinh70 Grek4 Zyyy Grek3 Zzzz2 Grek4 Zyyy Grek Zzzz4 Grek Zyyy",
   "Grek Zyyy Grek3 Zzzz Grek Zzzz Grek14 Zzzz Grek3f Copte Grek10 Cyrl85 Zinh2 Cyrla9 Zzzz",
   "Armn26 Zzzz2 Armn32 Zzzz2 Armn3 Zzzz Hebr37 Zzzz8 Hebr1b Zzzz4 Hebr6 Zzzzb Arab5 Zyyy Arab6",
   "Zyyy Arabe Zyyy Arab3 Zyyy Arab20 Zyyy Araba Zinhb Arab1a Zinh Arab6c Zyyy Arab22 Syrce Zzzz",
   "Syrc3c Zzzz2 Syrc3 Arab30 Thaa32 Zzzze Nkoo3b Zzzz2 Nkoo3 Samr2e Zzzz2 Samrf Zzzz Mand1c",
   "Zzzz2 Mand Zzzz Syrcb Zzzz5 Arab1f Zzzz Arab2 Zzzz5 Arab4b Zyyy Arab1d Deva51 Zinh4 Devaf",
   "Zyyy2 Deva1a Beng4 Zzzz Beng8 Zzzz2 Beng2 Zzzz2 Beng16 Zzzz Beng7 Zzzz Beng Zzzz3 Beng4 Zzzz2",
   "Beng9 Zzzz2 Beng2 Zzzz2 Beng4 Zzzz8 Beng Zzzz4 Beng2 Zzzz Beng5 Zzzz2 Beng19 Zzzz2 Guru3 Zzzz",
   "Guru6 Zzzz4 Guru2 Zzzz2 Guru16 Zzzz Guru7 Zzzz Guru2 Zzzz Guru2 Zzzz Guru2 Zzzz2 Guru Zzzz",
   "Guru5 Zzzz4 Guru2 Zzzz2 Guru3 Zzzz3 Guru Zzzz7 Guru4 Zzzz Guru Zzzz7 Guru11 Zzzza Gujr3 Zzzz",
   "Gujr9 Zzzz Gujr3 Zzzz Gujr16 Zzzz Gujr7 Zzzz Gujr2 Zzzz Gujr5 Zzzz2 Gujra Zzzz Gujr3 Zzzz",
   "Gujr3 Zzzz2 Gujr Zzzzf Gujr4 Zzzz2 Gujrc Zzzz7 Gujr7 Zzzz Orya3 Zzzz Orya8 Zzzz2 Orya2 Zzzz2",
   "Orya16 Zzzz Orya7 Zzzz Orya2 Zzzz Orya5 Zzzz2 Orya9 Zzzz2 Orya2 Zzzz2 Orya3 Zzzz7 Orya3 Zzzz4",
   "Orya2 Zzzz Orya5 Zzzz2 Orya12 Zzzza Taml2 Zzzz Taml6 Zzzz3 Taml3 Zzzz Taml4 Zzzz3 Taml2 Zzzz",
   "Taml Zzzz Taml2 Zzzz3 Taml2 Zzzz3 Taml3 Zzzz3 Tamlc Zzzz4 Taml5 Zzzz3 Taml3 Zzzz Taml4 Zzzz2",
   "Taml Zzzz6 Taml Zzzze Taml15 Zzzz5 Telud Zzzz Telu3 Zzzz Telu17 Zzzz Telu10 Zzzz2 Telu9 Zzzz",
   "Telu3 Zzzz Telu4 Zzzz7 Telu2 Zzzz Telu3 Zzzz2 Telu Zzzz2 Telu4 Zzzz2 Telua Zzzz7 Telu9 Kndad",
   "Zzzz Knda3 Zzzz Knda17 Zzzz Kndaa Zzzz Knda5 Zzzz2 Knda9 Zzzz Knda3 Zzzz Knda4 Zzzz7 Knda2",
   "Zzzz6 Knda2 Zzzz Knda4 Zzzz2 Kndaa Zzzz Knda3 Zzzzc Mlymd Zzzz Mlym3 Zzzz Mlym33 Zzzz Mlym3",
   "Zzzz Mlym6 Zzzz4 Mlym10 Zzzz2 Mlym1a Zzzz Sinh3 Zzzz Sinh12 Zzzz3 Sinh18 Zzzz Sinh9 Zzzz Sinh",
   "Zzzz2 Sinh7 Zzzz3 Sinh Zzzz4 Sinh6 Zzzz Sinh Zzzz Sinh8 Zzzz6 Sinha Zzzz2 Sinh3 Zzzzc Thai3a",
   "Zzzz4 Zyyy Thai1c Zzzz25 Laoo2 Zzzz Laoo Zzzz Laoo5 Zzzz Laoo18 Zzzz Laoo Zzzz Laoo17 Zzzz2",
   "Laoo5 Zzzz Laoo Zzzz Laoo7 Zzzz Laooa Zzzz2 Laoo4 Zzzz20 Tibt48 Zzzz Tibt24 Zzzz4 Tibt27 Zzzz",
   "Tibt24 Zzzz Tibtf Zzzz Tibt7 Zyyy4 Tibt2 Zzzz25 Mymra0 Geor26 Zzzz Geor Zzzz5 Geor Zzzz2",
   "Geor2b Zyyy Geor4 Hang100 Ethi49 Zzzz Ethi4 Zzzz2 Ethi7 Zzzz Ethi Zzzz Ethi4 Zzzz2 Ethi29",
   "Zzzz Ethi4 Zzzz2 Ethi21 Zzzz Ethi4 Zzzz2 Ethi7 Zzzz Ethi Zzzz Ethi4 Zzzz2 Ethif Zzzz Ethi39",
   "Zzzz Ethi4 Zzzz2 Ethi43 Zzzz2 Ethi20 Zzzz3 Ethi1a Zzzz6 Cher56 Zzzz2 Cher6 Zzzz2 Cans280",
   "Ogam1d Zzzz3 Runr4b Zyyy3 Runrb Zzzz7 Tglg16 Zzzz9 Tglg Hano15 Zyyy2 Zzzz9 Buhd14 Zzzzc Tagbd",
   "Zzzz Tagb3 Zzzz Tagb2 Zzzzc Khmr5e Zzzz2 Khmra Zzzz6 Khmra Zzzz6 Mong2 Zyyy2 Mong Zyyy Mong14",
   "Zzzz6 Mong59 Zzzz7 Mong2b Zzzz5 Cans46 Zzzza Limb1f Zzzz Limbc Zzzz4 Limbc Zzzz4 Limb Zzzz3",
   "Limbc Tale1e Zzzz2 Tale5 Zzzzb Talu2c Zzzz4 Talu1a Zzzz6 Talub Zzzz3 Talu2 Khmr20 Bugi1c",
   "Zzzz2 Bugi2 Lana3f Zzzz Lana1d Zzzz2 Lanab Zzzz6 Lanaa Zzzz6 Lanae Zzzz2 Zinh1f Zzzz31 Bali4d",
   "Zzzz Bali32 Sund40 Batk34 Zzzz8 Batk4 Lepc38 Zzzz3 Lepcf Zzzz3 Lepc3 Olck30 Cyrlb Zzzz5",
   "Geor2b Zzzz2 Geor3 Sund8 Zzzz8 Zinh3 Zyyy Zinhd Zyyy Zinh7 Zyyy4 Zinh Zyyy6 Zinh Zyyy3 Zinh2",
   "Zyyy Zzzz5 Latn26 Grek5 Cyrl Latn31 Grek5 Latn4 Grek5 Latnd Cyrl Latn46 Grek Zinh40 Latn100",
   "Grek16 Zzzz2 Grek6 Zzzz2 Grek26 Zzzz2 Grek6 Zzzz2 Grek8 Zzzz Grek Zzzz Grek Zzzz Grek Zzzz",
   "Grek1f Zzzz2 Grek35 Zzzz Grekf Zzzz Greke Zzzz2 Grek6 Zzzz Grek13 Zzzz2 Grek3 Zzzz Grek9 Zzzz",
   "Zyyyc Zinh2 Zyyy57 Zzzz Zyyyb Latn Zzzz2 Zyyyb Latn Zyyyf Zzzz Latnd Zzzz3 Zyyy21 Zzzzf",
   "Zinh21 Zzzzf Zyyy26 Grek Zyyy3 Latn2 Zyyy6 Latn Zyyy1b Latn Zyyy11 Latn29 Zyyy3 Zzzz4 Zyyy29a",
   "Zzzz16 Zyyyb Zzzz15 Zyyy3a0 Brai100 Zyyy274 Zzzz2 Zyyy20 Zzzz Zyyy69 Glag60 Latn20 Copt74",
   "Zzzz5 Copt7 Geor26 Zzzz Geor Zzzz5 Geor Zzzz2 Tfng38 Zzzz7 Tfng2 Zzzze Tfng Ethi17 Zzzz9",
   "Ethi7 Zzzz Ethi7 Zzzz Ethi7 Zzzz Ethi7 Zzzz Ethi7 Zzzz Ethi7 Zzzz Ethi7 Zzzz Ethi7 Zzzz",
   "Cyrl20 Zyyy5e Zzzz22 Hani1a Zzzz Hani59 Zzzzc Hanid6 Zzzz1a Zyyy15 Hani Zyyy Hani Zyyy19",
   "Hani9 Zinh4 Hang2 Zyyy8 Hani4 Zyyy4 Zzzz Hira56 Zzzz2 Zinh2 Zyyy2 Hira3 Zyyy Kana5a Zyyy2",
   "Kana3 Zzzz5 Bopo2b Zzzz Hang5e Zzzz Zyyy10 Bopo20 Zyyy26 Zzzz9 Zyyy Kana10 Hang1f Zzzz Zyyy40",
   "Hang1f Zyyy51 Kana2f Zyyy Kana58 Zyyya8 Hani19c0 Zyyy40 Hani5200 Yiii48d Zzzz3 Yiii37 Zzzz9",
   "Lisu30 Vaii12c Zzzz14 Cyrl60 Bamu58 Zzzz8 Zyyy22 Latn66 Zyyy3 Latn43 Zzzz2 Latn2 Zzzz Latn",
   "Zzzz Latn8 Zzzz15 Latne Sylo2d Zzzz3 Zyyya Zzzz6 Phag38 Zzzz8 Saur46 Zzzz8 Saurc Zzzz6 Deva20",
   "Kali2e Zyyy Kali Rjng24 Zzzzb Rjng Hang1d Zzzz3 Java4e Zzzz Zyyy Javaa Zzzz4 Java2 Mymr1f",
   "Zzzz Cham37 Zzzz9 Chame Zzzz2 Chama Zzzz2 Cham4 Mymr20 Tavt43 Zzzz18 Tavt5 Mtei17 Zzzza Ethi6",
   "Zzzz2 Ethi6 Zzzz2 Ethi6 Zzzz9 Ethi7 Zzzz Ethi7 Zzzz Latn2b Zyyy Latn9 Grek Latn4 Zyyy2 Zzzz4",
   "Cher50 Mtei2e Zzzz2 Mteia Zzzz6 Hang2ba4 Zzzzc Hang17 Zzzz4 Hang31 Zzzz2104 Hani16e Zzzz2",
   "Hani6a Zzzz26 Latn7 Zzzzc Armn5 Zzzz5 Hebr1a Zzzz Hebr5 Zzzz Hebr Zzzz Hebr2 Zzzz Hebr2 Zzzz",
   "Hebra Arab73 Zzzz10 Arab16b Zyyy2 Arab50 Zzzz2 Arab36 Zzzz7 Arab Zzzz20 Arab10 Zinh10 Zyyya",
   "Zzzz6 Zinhe Cyrl2 Zyyy23 Zzzz Zyyy13 Zzzz Zyyy4 Zzzz4 Arab5 Zzzz Arab87 Zzzz2 Zyyy Zzzz",
   "Zyyy20 Latn1a Zyyy6 Latn1a Zyyyb Kanaa Zyyy Kana2d Zyyy2 Hang1f Zzzz3 Hang6 Zzzz2 Hang6 Zzzz2",
   "Hang6 Zzzz2 Hang3 Zzzz3 Zyyy7 Zzzz Zyyy7 Zzzza Zyyy5 Zzzz2 Linbc Zzzz Linb1a Zzzz Linb13 Zzzz",
   "Linb2 Zzzz Linbf Zzzz2 Linbe Zzzz22 Linb7b Zzzz5 Zyyy3 Zzzz4 Zyyy2d Zzzz3 Zyyy9 Grek4f Zzzz",
   "Zyyyd Zzzz3 Grek Zzzz2f Zyyy2d Zinh Zzzz82 Lyci1d Zzzz3 Cari31 Zzzzf Zinh Zyyy1b Zzzz4 Ital24",
   "Zzzz9 Ital3 Goth1b Zzzz5 Perm2b Zzzz5 Ugar1e Zzzz Ugar Xpeo24 Zzzz4 Xpeoe Zzzz2a Dsrt50",
   "Shaw30 Osma1e Zzzz2 Osmaa Zzzz6 Osge24 Zzzz4 Osge24 Zzzz4 Elba28 Zzzz8 Aghb34 Zzzzb Aghb",
   "Vithb Zzzz Vithf Zzzz Vith7 Zzzz Vith2 Zzzz Vithb Zzzz Vithf Zzzz Vith7 Zzzz Vith2 Zzzz3",
   "Todr34 Zzzzc Lina137 Zzzz9 Lina16 Zzzza Lina8 Zzzz18 Latn6 Zzzz Latn2a Zzzz Latn9 Zzzz45",
   "Cprt6 Zzzz2 Cprt Zzzz Cprt2c Zzzz Cprt2 Zzzz3 Cprt Zzzz2 Cprt Armi16 Zzzz Armi9 Palm20 Nbat1f",
   "Zzzz8 Nbat9 Zzzz30 Hatr13 Zzzz Hatr2 Zzzz5 Hatr5 Phnx1c Zzzz3 Phnx Lydi1a Zzzz5 Lydi Zzzz40",
   "Mero20 Merc18 Zzzz4 Merc14 Zzzz2 Merc2e Khar4 Zzzz Khar2 Zzzz5 Khar8 Zzzz Khar3 Zzzz Khar1d",
   "Zzzz2 Khar3 Zzzz4 Khara Zzzz7 Khar9 Zzzz7 Sarb20 Narb20 Zzzz20 Mani27 Zzzz4 Manic Zzzz9",
   "Avst36 Zzzz3 Avst7 Prti16 Zzzz2 Prti8 Phli13 Zzzz5 Phli8 Phlp12 Zzzz7 Phlp4 Zzzzc Phlp7",
   "Zzzz50 Orkh49 Zzzz37 Hung33 Zzzzd Hung33 Zzzz7 Hung6 Rohg28 Zzzz8 Rohga Zzzz6 Gara26 Zzzz3",
   "Gara1d Zzzz8 Gara2 Zzzzd0 Arab1f Zzzz Yezi2a Zzzz Yezi3 Zzzz2 Yezi2 Zzzz10 Arab3 Zzzz37 Arab4",
   "Sogo28 Zzzz8 Sogd2a Zzzz16 Ougr1a Zzzz26 Chrs1c Zzzz14 Elym17 Zzzz9 Brah4e Zzzz4 Brah24 Zzzz9",
   "Brah Kthi43 Zzzza Kthi Zzzz2 Sora19 Zzzz7 Soraa Zzzz6 Cakm35 Zzzz Cakm12 Zzzz8 Mahj27 Zzzz9",
   "Shrd60 Zzzz Sinh14 Zzzzb Khoj12 Zzzz Khoj2f Zzzz3e Mult7 Zzzz Mult Zzzz Mult4 Zzzz Multf Zzzz",
   "Multb Zzzz6 Sind3b Zzzz5 Sinda Zzzz6 Gran4 Zzzz Gran8 Zzzz2 Gran2 Zzzz2 Gran16 Zzzz Gran7",
   "Zzzz Gran2 Zzzz Gran5 Zzzz Zinh Gran9 Zzzz2 Gran2 Zzzz2 Gran3 Zzzz2 Gran Zzzz6 Gran Zzzz5",
   "Gran7 Zzzz2 Gran7 Zzzz3 Gran5 Zzzzb Tutga Zzzz Tutg Zzzz2 Tutg Zzzz Tutg26 Zzzz Tutga Zzzz",
   "Tutg Zzzz2 Tutg Zzzz Tutg4 Zzzz Tutga Zzzz Tutg2 Zzzz8 Tutg2 Zzzz1d Newa5c Zzzz Newa5 Zzzz1e",
   "Tirh48 Zzzz8 Tirha Zzzza6 Sidd36 Zzzz2 Sidd26 Zzzz22 Modi45 Zzzzb Modia Zzzz6 Mongd Zzzz13",
   "Takr3a Zzzz6 Takra Zzzz6 Mymr14 Zzzz1c Ahom1b Zzzz2 Ahomf Zzzz4 Ahom17 Zzzzb9 Dogr3c Zzzz64",
   "Wara53 Zzzzc Wara Diak7 Zzzz2 Diak Zzzz2 Diak8 Zzzz Diak2 Zzzz Diak1e Zzzz Diak2 Zzzz2 Diakc",
   "Zzzz9 Diaka Zzzz46 Nand8 Zzzz2 Nand2e Zzzz2 Nandb Zzzz1b Zanb48 Zzzz8 Soyo53 Zzzzd Cans10",
   "Pauc39 Zzzz7 Devaa Zzzzb6 Sunu22 Zzzze Sunua Zzzz6 Bhks9 Zzzz Bhks2d Zzzz Bhkse Zzzza Bhks1d",
   "Zzzz3 Marc20 Zzzz2 Marc16 Zzzz Marce Zzzz49 Gonm7 Zzzz Gonm2 Zzzz Gonm2c Zzzz3 Gonm Zzzz",
   "Gonm2 Zzzz Gonm9 Zzzz8 Gonma Zzzz6 Gong6 Zzzz Gong2 Zzzz Gong25 Zzzz Gong2 Zzzz Gong6 Zzzz7",
   "Gonga Zzzz136 Maka19 Zzzz7 Kawi11 Zzzz Kawi29 Zzzz3 Kawi1d Zzzz55 Lisu Zzzzf Taml32 Zzzzd",
   "Taml Xsux39a Zzzz66 Xsux6f Zzzz Xsux5 Zzzzb Xsuxc4 Zzzza4c Cpmn63 Zzzzd Egyp456 Zzzza Egypf9b",
   "Zzzz5 Hluw247 Zzzz1ab9 Gukh3a Zzzz6c6 Bamu239 Zzzz7 Mroo1f Zzzz Mrooa Zzzz4 Mroo2 Tnsa4f Zzzz",
   "Tnsaa Zzzz6 Bass1e Zzzz2 Bass6 Zzzza Hmng46 Zzzza Hmnga Zzzz Hmng7 Zzzz Hmng15 Zzzz5 Hmng13",
   "Zzzz1b0 Krai3a Zzzzc6 Medf5b Zzzz65 Plrd4b Zzzz4 Plrd39 Zzzz7 Plrd11 Zzzz40 Tang Nshu Hani2",
   "Kits Zzzzb Hani2 Zzzze Tang17f8 Zzzz8 Tang300 Kits1d6 Zzzz29 Kits Tang9 Zzzz22e7 Kana4 Zzzz",
   "Kana7 Zzzz Kana2 Zzzz Kana Hira11f Kana3 Zzzzf Hira Zzzz1d Hira3 Zzzz2 Kana Zzzze Kana4 Zzzz8",
   "Nshu18c Zzzz904 Dupl6b Zzzz5 Dupld Zzzz3 Dupl9 Zzzz7 Dupla Zzzz2 Dupl4 Zyyy4 Zzzzf5c Zyyyfa",
   "Zzzz6 Zyyy1b4 Zzzz4c Zinh2e Zzzz2 Zinh17 Zzzz9 Zyyy74 Zzzz3c Zyyyf6 Zzzza Zyyy27 Zzzz2 Zyyy3e",
   "Zinh3 Zyyy11 Zinh8 Zyyy2 Zinh7 Zyyy1e Zinh4 Zyyy3d Zzzz15 Grek46 Zzzz7a Zyyy14 Zzzzc Zyyy14",
   "Zzzzc Zyyy57 Zzzz9 Zyyy19 Zzzz87 Zyyy55 Zzzz Zyyy47 Zzzz Zyyy2 Zzzz2 Zyyy Zzzz2 Zyyy2 Zzzz2",
   "Zyyy4 Zzzz Zyyyc Zzzz Zyyy Zzzz Zyyy7 Zzzz Zyyy41 Zzzz Zyyy4 Zzzz2 Zyyy8 Zzzz Zyyy7 Zzzz",
   "Zyyy1c Zzzz Zyyy4 Zzzz Zyyy5 Zzzz Zyyy Zzzz3 Zyyy7 Zzzz Zyyy154 Zzzz2 Zyyy124 Zzzz2 Zyyy32",
   "Sgnw28c Zzzzf Sgnw5 Zzzz Sgnwf Zzzz450 Latn1f Zzzz6 Latn6 Zzzzd5 Glag7 Zzzz Glag11 Zzzz2",
   "Glag7 Zzzz Glag2 Zzzz Glag5 Zzzz5 Cyrl3e Zzzz21 Cyrl Zzzz70 Hmnp2d Zzzz3 Hmnpe Zzzz2 Hmnpa",
   "Zzzz4 Hmnp2 Zzzz140 Toto1f Zzzz11 Wcho3a Zzzz5 Wcho Zzzz1d0 Nagm2a Zzzzd6 Onao2b Zzzz4 Onao",
   "Zzzz1e0 Ethi7 Zzzz Ethi4 Zzzz Ethi2 Zzzz Ethif Zzzz Mendc5 Zzzz2 Mend10 Zzzz29 Adlm4c Zzzz4",
   "Adlma Zzzz4 Adlm2 Zzzz311 Zyyy44 Zzzz4c Zyyy3d Zzzzc2 Arab4 Zzzz Arab1b Zzzz Arab2 Zzzz Arab",
   "Zzzz2 Arab Zzzz Araba Zzzz Arab4 Zzzz Arab Zzzz Arab Zzzz6 Arab Zzzz4 Arab Zzzz Arab Zzzz",
   "Arab Zzzz Arab3 Zzzz Arab2 Zzzz Arab Zzzz2 Arab Zzzz Arab Zzzz Arab Zzzz Arab Zzzz Arab Zzzz",
   "Arab2 Zzzz Arab Zzzz2 Arab4 Zzzz Arab7 Zzzz Arab4 Zzzz Arab4 Zzzz Arab Zzzz Araba Zzzz Arab11",
   "Zzzz5 Arab3 Zzzz Arab5 Zzzz Arab11 Zzzz34 Arab2 Zzzz10e Zyyy2c Zzzz4 Zyyy64 Zzzzc Zyyyf Zzzz2",
   "Zyyyf Zzzz Zyyyf Zzzz Zyyy25 Zzzza Zyyyae Zzzz38 Zyyy1a Hira Zyyy2 Zzzzd Zyyy2c Zzzz4 Zyyy9",
   "Zzzz7 Zyyy2 Zzzze Zyyy6 Zzzz9a Zyyy3d8 Zzzz4 Zyyy11 Zzzz3 Zyyyd Zzzz3 Zyyy77 Zzzz4 Zyyy5f",
   "Zzzz6 Zyyyc Zzzz4 Zyyy Zzzzf Zyyyc Zzzz4 Zyyy38 Zzzz8 Zyyya Zzzz6 Zyyy28 Zzzz8 Zyyy1e Zzzz2",
   "Zyyyc Zzzz4 Zyyy2 Zzzz3e Zyyy154 Zzzzc Zyyye Zzzz2 Zyyyd Zzzz3 Zyyya Zzzz5 Zyyy38 Zzzz7 Zyyyf",
   "Zzzz2 Zyyyb Zzzz6 Zyyy9 Zzzz7 Zyyy93 Zzzz Zyyy66 Zzzz406 Hania6e0 Zzzz20 Hani103a Zzzz6",
   "Hanide Zzzz2 Hani1682 Zzzze Hani1d31 Zzzzf Hani26e Zzzz9a2 Hani21e Zzzz5e2 Hani134b Zzzz5",
   "Hani1060 Zzzzadc51 Zyyy Zzzz1e Zyyy60 Zzzz80 Zinhf0 Zzzz2fe10"]

/-- The characters whose scripts are not just the one they have: the code points, and the
scripts they are used in. -/
def extensionTable : List String :=
  ["b7=Avst.Cari.Copt.Dupl.Elba.Geor.Glag.Gong.Goth.Grek.Hani.Latn.Lydi.Mahj.Perm.Shaw",
   "2bc=Beng.Cyrl.Deva.Latn.Lisu.Thai.Toto 2c7,2c9-2cb,2d9=Bopo.Latn 2cd=Latn.Lisu 2d7=Latn.Thai",
   "300=Cher.Copt.Cyrl.Grek.Latn.Perm.Sunu.Tale 301=Cher.Cyrl.Grek.Latn.Osge.Sunu.Tale.Todr",
   "302=Cher.Cyrl.Latn.Tfng 303=Glag.Latn.Sunu.Syrc.Thai",
   "304=Aghb.Cher.Copt.Cyrl.Goth.Grek.Latn.Osge.Syrc.Tfng.Todr 305=Copt.Elba.Glag.Goth.Kana.Latn",
   "306=Cyrl.Grek.Latn.Perm.Tfng 307=Copt.Dupl.Hebr.Latn.Perm.Syrc.Tale.Tfng.Todr",
   "308=Armn.Cyrl.Dupl.Goth.Grek.Hebr.Latn.Perm.Syrc.Tale.Tfng 309=Latn.Tfng 30a=Dupl.Latn.Syrc",
   "30b=Cher.Cyrl.Latn.Osge 30c=Cher.Latn.Tale 30d,310=Latn.Sunu 30e=Ethi.Latn 311=Cyrl.Latn.Todr",
   "313=Grek.Latn.Perm.Todr 323=Cher.Dupl.Kana.Latn.Syrc.Tfng 324=Cher.Dupl.Latn.Syrc",
   "325,32e=Latn.Syrc 32d=Latn.Sunu.Syrc 330=Cher.Latn.Syrc",
   "331=Aghb.Cher.Goth.Latn.Sunu.Syrc.Thai 342,345,1dc0-1dc1=Grek 358=Latn.Osge",
   "35e=Aghb.Latn.Todr 363-36f=Latn 374-375=Copt.Grek 483=Cyrl.Perm 484,487,2e43,a66f=Cyrl.Glag",
   "485-486=Cyrl.Latn 589=Armn.Geor.Glag 60c,61b=Arab.Gara.Nkoo.Rohg.Syrc.Thaa.Yezi",
   "61c=Arab.Syrc.Thaa 61f=Adlm.Arab.Gara.Nkoo.Rohg.Syrc.Thaa.Yezi",
   "640=Adlm.Arab.Mand.Mani.Ougr.Phlp.Rohg.Sogd.Syrc 64b-655,670=Arab.Syrc 660-669=Arab.Thaa.Yezi",
   "6d4=Arab.Rohg 951=Beng.Deva.Gran.Gujr.Guru.Knda.Latn.Mlym.Nand.Newa.Orya.Shrd.Taml.Telu.Tirh",
   "952=Beng.Deva.Gran.Gujr.Guru.Knda.Latn.Mlym.Newa.Orya.Taml.Telu.Tirh",
   "964=Beng.Deva.Dogr.Gong.Gonm.Gran.Gujr.Guru.Knda.Mahj",
   "964=Mlym.Nand.Onao.Orya.Sind.Sinh.Sylo.Takr.Taml.Telu.Tirh",
   "965=Beng.Deva.Dogr.Gong.Gonm.Gran.Gujr.Gukh.Guru.Knda.Limb",
   "965=Mahj.Mlym.Nand.Onao.Orya.Sind.Sinh.Sylo.Takr.Taml.Telu.Tirh 966-96f=Deva.Dogr.Kthi.Mahj",
   "9e6-9ef=Beng.Cakm.Sylo a66-a6f=Guru.Mult ae6-aef=Gujr.Khoj",
   "be6-bf3,11301,11303,1133b-1133c,11fd0-11fd1,11fd3=Gran.Taml ce6-cef=Knda.Nand.Tutg",
   "1040-1049=Cakm.Mymr.Tale 10fb=Geor.Glag.Latn 16eb-16ed=Runr 1735-1736=Buhd.Hano.Tagb.Tglg",
   "1802-1803,1805=Mong.Phag 1cd0,1cd2=Beng.Deva.Gran.Knda",
   "1cd1,1cd4,1cdb,1cde-1cdf,1ce3-1ce8,1cec,1cee-1cf1=Deva 1cd3=Deva.Gran.Knda",
   "1cd5=Beng.Deva.Newa.Telu.Tirh 1cd6=Beng.Deva.Telu 1cd7=Deva.Newa.Shrd",
   "1cd8=Beng.Deva.Newa.Telu 1cd9,1cdc-1cdd,1ce0=Deva.Shrd 1cda=Deva.Knda.Mlym.Orya.Taml.Telu",
   "1ce1,1cf5-1cf6=Beng.Deva 1ce2=Deva.Newa.Tirh 1ce9=Deva.Nand.Newa 1cea=Beng.Deva.Shrd",
   "1ceb=Deva.Newa 1ced=Beng.Deva.Newa.Shrd",
   "1cf2=Beng.Deva.Gran.Knda.Mlym.Nand.Orya.Sinh.Telu.Tirh.Tutg 1cf3,1cf8-1cf9=Deva.Gran",
   "1cf4=Deva.Gran.Knda.Tutg 1cf7=Beng 1cfa=Nand 1df8=Cyrl.Latn.Syrc 1dfa=Syrc",
   "202f=Latn.Mong.Phag 204f=Adlm.Arab 205a=Cari.Geor.Glag.Hung.Lyci.Orkh",
   "205d=Cari.Grek.Hung.Mero 20f0=Deva.Gran.Latn 2e17=Copt.Latn 2e30=Avst.Orkh",
   "2e31=Avst.Cari.Geor.Hung.Kthi.Lydi.Samr 2e3c,1bca0-1bca3=Dupl 2e41=Adlm.Arab.Hung",
   "2ff0-2fff,31ef=Hani.Tang 3001=Bopo.Hang.Hani.Hira.Kana.Mong.Yiii",
   "3002=Bopo.Hang.Hani.Hira.Kana.Mong.Phag.Yiii",
   "3003,3013,301c-301f,3030,3037,fe45-fe46=Bopo.Hang.Hani.Hira.Kana",
   "3006,303e-303f,3190-319f,31c0-31e5,3220-3247,3280-32b0=Hani",
   "32c0-32cb,32ff,3358-3370,337b-337f,33e0-33fe,1d360-1d371,1f250-1f251=Hani",
   "3008-3009=Bopo.Hang.Hani.Hira.Kana.Mong.Tibt.Yiii",
   "300a-300b=Bopo.Hang.Hani.Hira.Kana.Lisu.Mong.Tibt.Yiii",
   "300c-3011,3014-301b,30fb,ff61-ff65=Bopo.Hang.Hani.Hira.Kana.Yiii 302a-302d=Bopo.Hani",
   "3031-3035,3099-309c,30a0,30fc,ff70,ff9e-ff9f=Hira.Kana 303c-303d=Hani.Hira.Kana",
   "a700-a707=Hani.Latn",
   "a830-a832=Deva.Dogr.Gujr.Guru.Khoj.Knda.Kthi.Mahj.Mlym.Modi.Nand.Shrd.Sind.Takr.Tirh.Tutg",
   "a833-a835=Deva.Dogr.Gujr.Guru.Khoj.Knda.Kthi.Mahj.Modi.Nand.Shrd.Sind.Takr.Tirh.Tutg",
   "a836-a837,a839=Deva.Dogr.Gujr.Guru.Khoj.Kthi.Mahj.Modi.Sind.Takr.Tirh",
   "a838=Deva.Dogr.Gujr.Guru.Khoj.Kthi.Mahj.Modi.Shrd.Sind.Takr.Tirh a8f1=Beng.Deva.Tutg",
   "a8f3=Deva.Taml a92e=Kali.Latn.Mymr a9cf=Bugi.Java fd3e-fd3f=Arab.Nkoo fdf2,fdfd=Arab.Thaa",
   "10100-10101=Cpmn.Cprt.Linb 10102,10137-1013f=Cprt.Linb 10107-10133=Cprt.Lina.Linb",
   "102e0-102fb=Arab.Copt 10af2=Mani.Ougr"]

/-- A word of the table: its code points between commas, and the scripts after them. -/
def extensionOfWord (word : List Char) : CharSet × List String :=
  let (codes, scripts) := (cutFirst '=' word).getD (word, [])
  (CharSet.ofRanges ((pieces (· == ',') codes).flatMap rangesOfWord),
    (pieces (· == '.') scripts).map String.ofList)

def extensions : List (CharSet × List String) :=
  (tableWords extensionTable).map extensionOfWord

def scriptSet (code : String) : CharSet :=
  runSet scriptRuns (· == code)

def scriptExtensionSet (code : String) : CharSet :=
  let listed := extensions.foldl (fun set entry => set.union entry.1) CharSet.empty
  let used := (extensions.filter (fun entry => entry.2.contains code)).foldl
    (fun set entry => set.union entry.1) CharSet.empty
  ((scriptSet code).diff listed).union used

end Flowbook.Character
