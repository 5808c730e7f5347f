import FieldCalc.Pattern.Property.Packed

/-!
# Scripts

Every character has one script.  Those of Unicode 16.
-/

namespace FieldCalc

namespace Pattern

/-- The scripts. -/
def scripts : List Named :=
  [⟨["adlam", "adlm"],
    ["3pqU2XEJEB"]⟩,
   ⟨["ahom"],
    ["24bC1ACOEW"]⟩,
   ⟨["anatolianhieroglyphs", "hluw"],
    ["2gmEmK"]⟩,
   ⟨["arabic", "arab"],
    ["1nCEBFBNBCB1FBJLZB4DB1H3C1V9G1EBBF2WB1C1u9W4KQdYC3BC2BHA1GP4IEB5E47N1E2PC2DD1ozSDB1ABBBA",
     "CABJBDBABAGAEABABABCBBBACABABABABABBBACDBGBDBDBABJBQFCBEBQ2AB"]⟩,
   ⟨["armenian", "armn"],
    ["1fD1LC1XCC1v5JE"]⟩,
   ⟨["avestan", "avst"],
    ["210Y2BDG"]⟩,
   ⟨["balinese", "bali"],
    ["7dW2YB1X"]⟩,
   ⟨["bamum", "bamu"],
    ["19kQ3J1gsQlW"]⟩,
   ⟨["bassavah", "bass"],
    ["2r8I1DCF"]⟩,
   ⟨["batak", "batk"],
    ["7lG1ZID"]⟩,
   ⟨["bengali", "beng"],
    ["2lODBHCBCVBGBADDCICBCDIAEBBECY"]⟩,
   ⟨["bhaiksuki", "bhks"],
    ["25oIIB1SBNK1C"]⟩,
   ⟨["bopomofo", "bopo"],
    ["sSBclX1Q4I1F"]⟩,
   ⟨["brahmi", "brah"],
    ["22eE2ZE1JJA"]⟩,
   ⟨["braille", "brai"],
    ["axW9V"]⟩,
   ⟨["buginese", "bugi"],
    ["74A1BCB"]⟩,
   ⟨["buhid", "buhd"],
    ["6cYT"]⟩,
   ⟨["canadianaboriginal", "cans"],
    ["5gYoPlO2R1yhQP"]⟩,
   ⟨["carian", "cari"],
    ["1yqM1W"]⟩,
   ⟨["caucasianalbanian", "aghb"],
    ["1zfS1ZLA"]⟩,
   ⟨["chakma", "cakm"],
    ["22oA2ABR"]⟩,
   ⟨["cham"],
    ["1ahW2CJNCJCD"]⟩,
   ⟨["cherokee", "cher"],
    ["5dG3HCF15fE3B"]⟩,
   ⟨["chorasmian", "chrs"],
    ["22bC1B"]⟩,
   ⟨["common", "zyyy"],
    ["A2M1AF1A1UBOBEXA1FAhH1MFECT4MAJAGABAoNAGAOADA1GA6AAjWA4ZB1bTAfPDbEA1mLC2TB7VBBA1bHANAHDB",
     "FBCCAtTLC3IBKDKBOR1G2L1LBCCFB1ABQ1PCEpPWKVzR9WoDC1FB4AjS3PfMUBABYPHED3NBDA3MB5RP1G1LJA1W",
     "2L1F3C1VA3K6L71O2LocI1H3YC6JJ9KA6EAfFAOBmdQB8AJW1IBSBD5RAB1F1AF1AKKA1TB2MGBGKE9YCE1SDI3C",
     "M1Z1S8U1A1erWD47G9PGgT6A4L2I9LK1MC2JDQIBH1DE2I8FTMTM3IJY5F3GB2SBBCACBCDBLBABGB2MBDCHBGB1",
     "BBDBEBADGBdBCbFC1X5lH2P2Y2IrE1RE3VMOCOBOB1KK6R2EZBBN1REIHBOF5Y11VEQDMD4OE3QGLEAPLE2DIJG1",
     "NI1DCLEB2KdBMNCMDJF2DHOCKGIH5QB3XndbBA1E3R"]⟩,
   ⟨["coptic", "copt", "qaac"],
    ["12GNb3K4LFG"]⟩,
   ⟨["cuneiform", "xsux"],
    ["26rSzL3Y4GBEL7N"]⟩,
   ⟨["cypriot", "cprt"],
    ["207KFCAB1RBBDACA"]⟩,
   ⟨["cyprominoan", "cpmn"],
    ["2b0Y3U"]⟩,
   ⟨["cyrillic", "cyrl"],
    ["13K5CC6M6dOK6EA2YA4hN1FwwA3RnyCB1ptG2J1HA"]⟩,
   ⟨["deseret", "dsrt"],
    ["1z4A3B"]⟩,
   ⟨["devanagari", "deva"],
    ["2gQ3CEOCZ17lG1Fv6MJ"]⟩,
   ⟨["divesakuru", "diak"],
    ["24uUGCACHBBB1DBBCLJJ"]⟩,
   ⟨["dogra", "dogr"],
    ["24kY2H"]⟩,
   ⟨["duployan", "dupl"],
    ["3dfS4CFMDIHJCD"]⟩,
   ⟨["egyptianhieroglyphs", "egyp"],
    ["2b5G16RK49Q"]⟩,
   ⟨["elbasan", "elba"],
    ["1zdW1N"]⟩,
   ⟨["elymaic", "elym"],
    ["22cYW"]⟩,
   ⟨["ethiopic", "ethi"],
    ["4xG2UBDCGBABDC1OBDC1GBDCGBABDCOB2EBDC2OC1FDZ73AWJGBGBGBGBGBGBGBGy8CFCFCFJGBG2emFGBDBBBO"]⟩,
   ⟨["garay", "gara"],
    ["21nC1LD1CIB"]⟩,
   ⟨["georgian", "geor"],
    ["4jS1LBAFAC1QBD35W1QCC4gA1LBAFA"]⟩,
   ⟨["glagolitic", "glag"],
    ["c1G3R3b5GGBQCGBBBE"]⟩,
   ⟨["gothic", "goth"],
    ["1ywA1A"]⟩,
   ⟨["grantha", "gran"],
    ["237SDBHCBCVBGBBBECICBCCCAGAFGCGDE"]⟩,
   ⟨["greek", "grek"],
    ["xWDBCCDBAEABABCBABTB2KOP6vQE1YEEE3GAcIVCFC1LCFCHBABABAB1EC2ABOBNCFBSCCBIbJA11tEAnhI3ARA1",
     "kzR2R"]⟩,
   ⟨["gujarati", "gujr"],
    ["2vLCBIBCBVBGBBBECJBCBCCAPDCLHG"]⟩,
   ⟨["gunjalagondi", "gong"],
    ["261WFBBB1KBBBFHJ"]⟩,
   ⟨["gurmukhi", "guru"],
    ["2qNCBFEBCVBGBBBBBBCABEEBCCDAHDBAHQ"]⟩,
   ⟨["gurungkhema", "gukh"],
    ["2ojS2F"]⟩,
   ⟨["hani", "han"],
    ["cpWZB3KM8F1VABAZIOD11C71N2MmfJocIeBC4Bw0IBMB13eK19nB1G4fTG8NC65PO7zKPnX2mWkV1lY59YF4hF"]⟩,
   ⟨["hangul", "hang"],
    ["4nK9V89EB9X3P4J1E2N1EwiN1CoTbxRMWE1WauI1EDFCFCFCC"]⟩,
   ⟨["hanifirohingya", "rohg"],
    ["21kQ1NIJ"]⟩,
   ⟨["hanunoo", "hano"],
    ["6bSU"]⟩,
   ⟨["hatran", "hatr"],
    ["20gASBBFE"]⟩,
   ⟨["hebrew", "hebr"],
    ["1iV2CI1AEF1v1WZBEBABBBBBJ"]⟩,
   ⟨["hiragana", "hira"],
    ["d7D3HGC2wuVbASA1DChoVA"]⟩,
   ⟨["imperialaramaic", "armi"],
    ["209WVBI"]⟩,
   ⟨["inherited", "qaai", "zinh"],
    ["tO4HaRBhKK1AAsID4qX1EjTCBMBGEAGADB7Q2LkEB7M1G45XD4DB1k6JPQN11NA8SA4hAA1fcU1TCWkYCRHCG1ED",
     "np5I9F"]⟩,
   ⟨["inscriptionalpahlavi", "phli"],
    ["214QSFH"]⟩,
   ⟨["inscriptionalparthian", "prti"],
    ["213KVCH"]⟩,
   ⟨["javanese", "java"],
    ["1acY2ZCJEB"]⟩,
   ⟨["kaithi", "kthi"],
    ["22jC2OKA"]⟩,
   ⟨["kannada", "knda"],
    ["3fCMBCBWBJBECIBCBDHBGBBDCJBC"]⟩,
   ⟨["katakana", "kana"],
    ["daV3LCC9GP8A1UB3J1jtEJB1S1c8CDBGBBBAbBC1YAOD"]⟩,
   ⟨["kawi"],
    ["26hWQB1OD1C"]⟩,
   ⟨["kayahli", "kali"],
    ["1a8A1TBA"]⟩,
   ⟨["kharoshthi", "khar"],
    ["20rCDBBFHBCB1CCCEJHI"]⟩,
   ⟨["khitansmallscript", "kits"],
    ["2smIA7eXiB1PA"]⟩,
   ⟨["khmer", "khmr"],
    ["6fK3PCJGJiS1F"]⟩,
   ⟨["khojki", "khoj"],
    ["22xWRB1U"]⟩,
   ⟨["khudawadi", "sind"],
    ["234Q2GFJ"]⟩,
   ⟨["kiratrai", "krai"],
    ["2rwI2F"]⟩,
   ⟨["laoo", "lao"],
    ["3yVBBABEBXBABWCEBABGBJCD"]⟩,
   ⟨["latin", "latn"],
    ["2NZGZ1VAPAFWB1EBhG1NE75B1LG1WFDFMB2R2N9VeFANAQM5LBGA1BAR1O2yT1FxjM3XD2OCBBABHVNvK1QBIBDl",
     "rQG14KZGZ28FFB1PBI1mvP1EGF"]⟩,
   ⟨["lepcha", "lepc"],
    ["7nS2DDODC"]⟩,
   ⟨["limbu", "limb"],
    ["6uE1EBLELEADL"]⟩,
   ⟨["lineara", "lina"],
    ["1znSbYJVKH"]⟩,
   ⟨["linearb", "linb"],
    ["1y0QLBZBSBBBOCN1I4S"]⟩,
   ⟨["lisu"],
    ["192U1VxkAA"]⟩,
   ⟨["lycian", "lyci"],
    ["1ypG1C"]⟩,
   ⟨["lydian", "lydi"],
    ["20iMZFA"]⟩,
   ⟨["mahajani", "mahj"],
    ["22rC1M"]⟩,
   ⟨["makasar", "maka"],
    ["26gQY"]⟩,
   ⟨["malayalam", "mlym"],
    ["3kAMBCB1YBCBFEPCZ"]⟩,
   ⟨["mandaic", "mand"],
    ["29G1BCA"]⟩,
   ⟨["manichaean", "mani"],
    ["20yM1MEL"]⟩,
   ⟨["marchen", "marc"],
    ["25sQ1FCVBN"]⟩,
   ⟨["masaramgondi", "gonm"],
    ["25yEGBBB1RDABBBIIJ"]⟩,
   ⟨["medefaidrin", "medf"],
    ["2s6E3M"]⟩,
   ⟨["meeteimayek", "mtei"],
    ["1aqMW7T1TCJ"]⟩,
   ⟨["mendekikakui", "mend"],
    ["3pgY7OCP"]⟩,
   ⟨["meroiticcursive", "merc"],
    ["20nKXETC1T"]⟩,
   ⟨["meroitichieroglyphs", "mero"],
    ["20mE1F"]⟩,
   ⟨["miao", "plrd"],
    ["2sdO2WE2EHQ"]⟩,
   ⟨["modi"],
    ["241G2QLJ"]⟩,
   ⟨["mongolian", "mong"],
    ["6kIBCABTG3KH1Q1xeBM"]⟩,
   ⟨["mroo", "mro"],
    ["2r2U1EBJEB"]⟩,
   ⟨["multani", "mult"],
    ["232UGBABDBOBK"]⟩,
   ⟨["myanmar", "mymr"],
    ["4dO6D15wY1E3T1FtmMT"]⟩,
   ⟨["nabataean", "nbat"],
    ["20cI1EII"]⟩,
   ⟨["nagmundari", "nagm"],
    ["3olO1P"]⟩,
   ⟨["nandinagari", "nand"],
    ["250YHC1TCK"]⟩,
   ⟨["newtailue", "talu"],
    ["6zC1REZGKDB"]⟩,
   ⟨["newa"],
    ["23hO3NBE"]⟩,
   ⟨["nkoo", "nko"],
    ["24I2GCC"]⟩,
   ⟨["nushu", "nshu"],
    ["2smFAhxMfF"]⟩,
   ⟨["nyiakengpuachuehmong", "hmnp"],
    ["3nkA1SDNCJEB"]⟩,
   ⟨["ogham", "ogam"],
    ["65O1C"]⟩,
   ⟨["olchiki", "olck"],
    ["7qU1V"]⟩,
   ⟨["olonal", "onao"],
    ["3ovK1QEA"]⟩,
   ⟨["oldhungarian", "hung"],
    ["21fS1YN1YHF"]⟩,
   ⟨["olditalic", "ital"],
    ["1yuE1JJC"]⟩,
   ⟨["oldnortharabian", "narb"],
    ["20wA1F"]⟩,
   ⟨["oldpermic", "perm"],
    ["1yxG1Q"]⟩,
   ⟨["oldpersian", "xpeo"],
    ["1z0I1JEN"]⟩,
   ⟨["oldsogdian", "sogo"],
    ["224I1N"]⟩,
   ⟨["oldsoutharabian", "sarb"],
    ["20uU1F"]⟩,
   ⟨["oldturkic", "orkh"],
    ["21aU2U"]⟩,
   ⟨["olduyghur", "ougr"],
    ["228QZ"]⟩,
   ⟨["oriya", "orya"],
    ["30JCBHCBCVBGBBBECICBCCHCEBBECR"]⟩,
   ⟨["osage", "osge"],
    ["1zaU1JE1J"]⟩,
   ⟨["osmanya", "osma"],
    ["1z8Y1DCJ"]⟩,
   ⟨["pahawhhmong", "hmng"],
    ["2raE2RKJBGBUFS"]⟩,
   ⟨["palmyrene", "palm"],
    ["20bC1F"]⟩,
   ⟨["paucinhau", "pauc"],
    ["25cA2E"]⟩,
   ⟨["phagspa", "phag"],
    ["1a0Q2D"]⟩,
   ⟨["phoenician", "phnx"],
    ["20hG1BDA"]⟩,
   ⟨["psalterpahlavi", "phlp"],
    ["215WRHDMG"]⟩,
   ⟨["rejang", "rjng"],
    ["1a9W1JLA"]⟩,
   ⟨["runic", "runr"],
    ["66U2WDK"]⟩,
   ⟨["samaritan", "samr"],
    ["26U1TCO"]⟩,
   ⟨["saurashtra", "saur"],
    ["1a3C2RIL"]⟩,
   ⟨["sharada", "shrd"],
    ["22sY3R"]⟩,
   ⟨["shavian", "shaw"],
    ["1z7C1V"]⟩,
   ⟨["siddham", "sidd"],
    ["23wI2BC1L"]⟩,
   ⟨["signwriting", "sgnw"],
    ["3l3KpBPEBO"]⟩,
   ⟨["sinhala", "sinh"],
    ["3oZCBRDXBIBACGDAEFBABHGJCC1z3GT"]⟩,
   ⟨["sogdian", "sogd"],
    ["226E1P"]⟩,
   ⟨["sorasompeng", "sora"],
    ["22mEYHJ"]⟩,
   ⟨["soyombo", "soyo"],
    ["257S3E"]⟩,
   ⟨["sundanese", "sund"],
    ["7iU2L9WH"]⟩,
   ⟨["sunuwar", "sunu"],
    ["25lW1HOJ"]⟩,
   ⟨["sylotinagri", "sylo"],
    ["19yE1S"]⟩,
   ⟨["syriac", "syrc"],
    ["1wYNB2HCCaMK"]⟩,
   ⟨["tagalog", "tglg"],
    ["6aMVJA"]⟩,
   ⟨["tagbanwa", "tagb"],
    ["6eEMBCBB"]⟩,
   ⟨["taile", "tale"],
    ["6xG1DCE"]⟩,
   ⟨["taitham", "lana"],
    ["75G2KB1CCKGJGN"]⟩,
   ⟨["taiviet", "tavt"],
    ["1amU2OYE"]⟩,
   ⟨["takri", "takr"],
    ["246E2FGJ"]⟩,
   ⟨["tamil", "taml"],
    ["35IBBFDCBDDBBABBDBDCDLEEDCBDCAGAOU23fH1XNA"]⟩,
   ⟨["tangsa", "tnsa"],
    ["2r4Q3ABJ"]⟩,
   ⟨["tangut", "tang"],
    ["2smEA1F6jZItNjSI"]⟩,
   ⟨["telugu", "telu"],
    ["3aEMBCBWBPCIBCBDHBBCCACDCJHI"]⟩,
   ⟨["thaana", "thaa"],
    ["21W1X"]⟩,
   ⟨["thai"],
    ["3tX2FF1B"]⟩,
   ⟨["tibetan", "tibt"],
    ["43S2TB1JE1MB1JBOBGEB"]⟩,
   ⟨["tifinagh", "tfng"],
    ["ccY2DHBOA"]⟩,
   ⟨["tirhuta", "tirh"],
    ["23mM2TIJ"]⟩,
   ⟨["todhri", "todr"],
    ["1zlG1Z"]⟩,
   ⟨["toto"],
    ["3nzK1E"]⟩,
   ⟨["tulutigalari", "tutg"],
    ["23cQJBACAB1LBJBACABDBJBBIB"]⟩,
   ⟨["ugaritic", "ugar"],
    ["1yzC1DBA"]⟩,
   ⟨["vaii", "vai"],
    ["194QbN"]⟩,
   ⟨["vithkuqi", "vith"],
    ["1ziEKBOBGBBBKBOBGBB"]⟩,
   ⟨["wancho", "wcho"],
    ["3o1G2FFA"]⟩,
   ⟨["warangciti", "wara"],
    ["24rC3EMA"]⟩,
   ⟨["yezidi", "yezi"],
    ["21zK1PBCCB"]⟩,
   ⟨["yiii", "yi"],
    ["17rK18UD2C"]⟩,
   ⟨["zanabazarsquare", "zanb"],
    ["254Q2T"]⟩]

end Pattern

end FieldCalc
